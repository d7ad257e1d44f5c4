import Mathlib.Data.List.Chain
import Mathlib.Data.List.Forall2
import UmlSketch.Proofs.Dialect.Unclosed
import UmlSketch.Proofs.Text.Sealed

/-! # Lines made of items
A line can be written item by item: brackets with their contents, connectors between them, and blanks
wherever they are wanted. If no delimiter shows in a content or in a connector but behind a backslash,
then the tokens of the line are the items again (`Kind.forall₂_tokenize_write`). Two connectors may
not follow one another, since there is nothing to keep them apart. -/

namespace UmlSketch

namespace Token

/-! ## Items -/

/-- An **item** of a line. -/
inductive Item
  /-- A bracket with its content. -/
  | bracket (opener : Char) (content : Text)
  /-- A connector. -/
  | connector (text : Text)
  deriving DecidableEq, Repr

namespace Item

/-- An item as it is written. -/
def text : Item → Text
  | .bracket opener content => opener :: content ++ [closerOf opener]
  | .connector text => text

/-- Whether an item is a connector. -/
def isConnector : Item → Bool
  | .bracket _ _ => false
  | .connector _ => true

/-- Whether the **delimiters of an item are clear**: a bracket has one of the openers and closes where
its content ends; a connector is a text without blanks at its ends in which no bracket opens. -/
def IsClear (openers : Text) : Item → Prop
  | .bracket opener content =>
    opener ∈ openers ∧ content.isSealed (· == closerOf opener) = true
  | .connector text => text ≠ [] ∧ text.IsTrimmed ∧ text.isSealed openers.contains = true

/-- Whether a token is an item: it has the text of the item, and a bracket gives its content back. -/
def IsReadAs (item : Item) (token : Token) : Prop :=
  token.text = item.text ∧
    ∀ opener content, item = .bracket opener content →
      token.enclosed? opener (closerOf opener) = some content

/-- A token with the text of an item is the item. -/
theorem isReadAs_of_text {item : Item} {token : Token} (h : token.text = item.text) :
    item.IsReadAs token := by
  refine ⟨h, ?_⟩
  rintro opener content rfl
  rw [enclosed?, h]
  simp [text]

end Item

/-- A line of items, each behind some blanks, with blanks at the end. -/
def write (entries : List (Text × Item)) (trail : Text) : Text :=
  entries.flatMap (fun entry => entry.1 ++ entry.2.text) ++ trail

@[simp] theorem write_nil (trail : Text) : write [] trail = trail := rfl

theorem write_cons (gap : Text) (item : Item) (entries : List (Text × Item)) (trail : Text) :
    write ((gap, item) :: entries) trail = gap ++ (item.text ++ write entries trail) := by
  simp [write]

/-! ## The pieces of a line of items -/

variable {openers : Text}

/-- A bracket ends at the closer behind its content. -/
theorem pieces_bracket (hopeners : AreOpening openers) {opener : Char} (hopener : opener ∈ openers)
    {content : Text} (hcontent : content.isSealed (· == closerOf opener) = true) (rest : Text) :
    pieces openers ((Item.bracket opener content).text ++ rest) =
      (Item.bracket opener content).text :: pieces openers rest := by
  have hcloser := closerOf_ne_backslash (hopeners opener hopener).1
  have hstop : Text.spanUnescaped (· == closerOf opener) (closerOf opener :: rest) =
      ([], closerOf opener :: rest) := by
    rw [Text.spanUnescaped_cons_of_ne hcloser, if_pos (beq_self_eq_true _)]
  have hread := Text.spanUnescaped_append_of_isSealed hcontent (closerOf opener :: rest)
  rw [hstop, List.append_nil] at hread
  simp only [Item.text, List.cons_append, List.append_assoc, List.nil_append]
  rw [pieces, dif_pos (List.contains_iff_mem.mpr hopener)]
  split
  · simp_all
  · simp_all

/-- What stands between brackets ends at the next opener. -/
theorem pieces_between (hopeners : AreOpening openers) {between rest : Text}
    (hne : between ≠ []) (hbetween : between.isSealed openers.contains = true)
    (hrest : ∀ c ∈ rest.head?, c ∈ openers) :
    pieces openers (between ++ rest) = between :: pieces openers rest := by
  have hstop : Text.spanUnescaped openers.contains rest = ([], rest) := by
    cases rest with
    | nil => rfl
    | cons c after =>
      have hc : c ∈ openers := hrest c rfl
      rw [Text.spanUnescaped_cons_of_ne (hopeners c hc).1, if_pos (List.contains_iff_mem.mpr hc)]
  have hread := Text.spanUnescaped_append_of_isSealed hbetween rest
  rw [hstop, List.append_nil] at hread
  cases between with
  | nil => exact absurd rfl hne
  | cons c after =>
    have hc : ¬ openers.contains c = true := by
      intro hmem
      have hbackslash := (hopeners c (List.contains_iff_mem.mp hmem)).1
      rw [Text.isSealed_cons_of_ne hbackslash, hmem] at hbetween
      simp at hbetween
    rw [List.cons_append] at hread ⊢
    rw [pieces, dif_neg hc]
    simp only [hread]

/-- A piece without blanks at its ends is a token as it stands. -/
theorem place_cons_of_isTrimmed {piece : Text} (hne : piece ≠ []) (htrimmed : piece.IsTrimmed)
    (offset : Nat) (later : List Text) :
    place offset (piece :: later) =
      ⟨piece, .ofLength offset (Text.byteLength piece)⟩ ::
        place (offset + Text.byteLength piece) later := by
  have hblanks : piece.takeWhile Text.isBlank = [] := (Text.span_of_head? htrimmed.head).1
  rw [place, htrimmed.trim_eq, if_neg hne, hblanks]
  rfl

/-- A line without blanks at its ends in which no bracket opens is one token. -/
theorem tokenize_of_isSealed (hopeners : AreOpening openers) {line : Text} (hne : line ≠ [])
    (htrimmed : line.IsTrimmed) (hsealed : line.isSealed openers.contains = true) (offset : Nat) :
    tokenize openers line offset = [⟨line, .ofLength offset (Text.byteLength line)⟩] := by
  have hpieces : pieces openers (line ++ []) = line :: pieces openers [] :=
    pieces_between hopeners hne hsealed (by simp)
  rw [List.append_nil, pieces] at hpieces
  rw [tokenize, hpieces, place_cons_of_isTrimmed hne htrimmed, place]

/-- A bracket has no blank at its ends. -/
theorem isTrimmed_bracket {opener : Char} (hopener : Text.isBlank opener = false) (content : Text) :
    Text.IsTrimmed (Item.bracket opener content).text where
  head := by
    intro c hc
    obtain rfl : opener = c := Option.some.inj hc
    exact hopener
  last := by
    intro c hc
    have hcloser : (Item.bracket opener content).text.getLast? = some (closerOf opener) :=
      List.getLast?_concat
    obtain rfl : closerOf opener = c := Option.some.inj (hcloser.symm.trans hc)
    unfold closerOf
    split
    · decide
    split
    · decide
    split
    · decide
    · exact hopener

/-- A connector between two brackets is a token, and so are the brackets. -/
theorem tokenize_bracket_between (hopeners : AreOpening openers) {opener : Char}
    (hopener : opener ∈ openers) {first second between : Text}
    (hfirst : first.isSealed (· == closerOf opener) = true)
    (hsecond : second.isSealed (· == closerOf opener) = true) (hne : between ≠ [])
    (htrimmed : between.IsTrimmed) (hsealed : between.isSealed openers.contains = true)
    (offset : Nat) :
    let left := (Item.bracket opener first).text
    let right := (Item.bracket opener second).text
    tokenize openers (left ++ (between ++ right)) offset =
      [⟨left, .ofLength offset (Text.byteLength left)⟩,
        ⟨between, .ofLength (offset + Text.byteLength left) (Text.byteLength between)⟩,
        ⟨right, .ofLength (offset + Text.byteLength left + Text.byteLength between)
          (Text.byteLength right)⟩] := by
  intro left right
  have hblank := (hopeners opener hopener).2
  have hright : pieces openers right = [right] := by
    have hpieces := pieces_bracket hopeners hopener hsecond []
    rwa [List.append_nil, pieces] at hpieces
  have hpieces : pieces openers (left ++ (between ++ right)) = [left, between, right] := by
    rw [pieces_bracket hopeners hopener hfirst,
      pieces_between hopeners hne hsealed (by simpa [right, Item.text] using hopener), hright]
  rw [tokenize, hpieces, place_cons_of_isTrimmed (by simp [Item.text])
    (isTrimmed_bracket hblank first), place_cons_of_isTrimmed hne htrimmed,
    place_cons_of_isTrimmed (by simp [Item.text]) (isTrimmed_bracket hblank second), place]

/-- A bracket is a token of its own. -/
theorem textsOf_bracket (hopeners : AreOpening openers) {opener : Char} (hopener : opener ∈ openers)
    {content : Text} (hcontent : content.isSealed (· == closerOf opener) = true) (rest : Text) :
    textsOf openers ((Item.bracket opener content).text ++ rest) =
      (Item.bracket opener content).text :: textsOf openers rest := by
  have htrim := (isTrimmed_bracket (hopeners opener hopener).2 content).trim_eq
  rw [textsOf, pieces_bracket hopeners hopener hcontent, List.map_cons, htrim,
    List.filter_cons_of_pos (by simp [Item.text])]
  rfl

/-- What stands between brackets is a token, unless it is blank. -/
theorem textsOf_between (hopeners : AreOpening openers) {between : Text}
    (hbetween : between.isSealed openers.contains = true) (rest : Text)
    (hrest : ∀ c ∈ rest.head?, c ∈ openers) :
    textsOf openers (between ++ rest) =
      [Text.trim between].filter (· ≠ []) ++ textsOf openers rest := by
  by_cases hne : between = []
  · simp [hne]
  · rw [textsOf, pieces_between hopeners hne hbetween hrest, List.map_cons, ← List.singleton_append,
      List.filter_append]
    rfl

/-! ## The tokens of a line of items -/

/-- What stands at the start of a line of items goes on until the first bracket. If it is not blank,
then the first item must not be a connector. -/
theorem textsOf_append_write (hopeners : AreOpening openers) (lead : Text) {trail : Text}
    {entries : List (Text × Item)} (hlead : lead.isSealed openers.contains = true)
    (hfirst : ∀ entry ∈ entries.head?, entry.2.isConnector = true → ∀ c ∈ lead, Text.isBlank c = true)
    (hclear : ∀ entry ∈ entries, entry.2.IsClear openers)
    (hgaps : ∀ entry ∈ entries, ∀ c ∈ entry.1, Text.isBlank c = true)
    (htrail : ∀ c ∈ trail, Text.isBlank c = true)
    (hapart : entries.IsChain fun first second =>
      ¬ (first.2.isConnector = true ∧ second.2.isConnector = true)) :
    textsOf openers (lead ++ write entries trail) =
      [Text.trim lead].filter (· ≠ []) ++ entries.map fun entry => entry.2.text := by
  have hstop : ∀ c, openers.contains c = true → Text.isBlank c = false :=
    fun c hc => (hopeners c (List.contains_iff_mem.mp hc)).2
  -- What has been read since the last bracket is carried along.
  induction entries generalizing lead with
  | nil =>
    have hbetween := Text.isSealed_append hlead (Text.isSealed_of_isBlank hstop htrail)
    have htexts := textsOf_between hopeners hbetween [] (by simp)
    rw [List.append_nil, Text.trim_append_blanks htrail] at htexts
    rw [write_nil, htexts]
    simp [textsOf, pieces]
  | cons entry rest ih =>
    obtain ⟨gap, item⟩ := entry
    rw [List.forall_mem_cons] at hclear hgaps
    rw [List.isChain_cons] at hapart
    have hgap := Text.isSealed_of_isBlank hstop hgaps.1
    have hbetween := Text.isSealed_append hlead hgap
    rw [write_cons, ← List.append_assoc, List.map_cons]
    cases item with
    | bracket opener content =>
      obtain ⟨hopener, hcontent⟩ := hclear.1
      have hrest := ih [] rfl (by simp) hclear.2 hgaps.2 hapart.2
      simp only [List.nil_append, Text.trim_nil] at hrest
      rw [textsOf_between hopeners hbetween _ (by simpa [Item.text] using hopener),
        Text.trim_append_blanks hgaps.1, textsOf_bracket hopeners hopener hcontent, hrest]
      rfl
    | connector text =>
      obtain ⟨hne, htrimmed, htext⟩ := hclear.1
      have hblank : ∀ c ∈ lead, Text.isBlank c = true := hfirst _ rfl rfl
      have hrest := ih (lead ++ gap ++ text) (Text.isSealed_append hbetween htext)
        (fun next hnext hconnector => absurd ⟨rfl, hconnector⟩ (hapart.1 next hnext))
        hclear.2 hgaps.2 hapart.2
      have hleadTrim : Text.trim lead = [] := Text.trim_of_isBlank hblank
      have htrim := Text.trim_append (List.forall_mem_append.mpr ⟨hblank, hgaps.1⟩) htrimmed
        (List.forall_mem_nil _)
      rw [List.append_nil] at htrim
      rw [← List.append_assoc, Item.text, hrest, htrim, hleadTrim, List.filter_cons_of_pos (by simpa using hne)]
      rfl

end Token

/-- **The tokens of a line of items are the items**, whatever blanks stand between them. -/
theorem Kind.forall₂_tokenize_write (kind : Kind) {entries : List (Text × Token.Item)} {trail : Text}
    (hclear : ∀ entry ∈ entries, entry.2.IsClear kind.openers)
    (hapart : (entries.map Prod.snd).IsChain fun first second =>
      ¬ (first.isConnector = true ∧ second.isConnector = true))
    (hgaps : ∀ entry ∈ entries, ∀ c ∈ entry.1, Text.isBlank c = true)
    (htrail : ∀ c ∈ trail, Text.isBlank c = true) (offset : Nat) :
    List.Forall₂ Token.Item.IsReadAs (entries.map Prod.snd)
      (tokenize kind.openers (Token.write entries trail) offset) := by
  have htexts := Token.textsOf_append_write kind.areOpening_openers [] rfl (by simp) hclear
    hgaps htrail ((List.isChain_map _).mp hapart)
  rw [List.nil_append, ← Token.map_text_tokenize _ _ offset] at htexts
  have hsame : List.Forall₂ (· = ·) ((entries.map Prod.snd).map Token.Item.text)
      ((tokenize kind.openers (Token.write entries trail) offset).map Token.text) := by
    rw [List.forall₂_eq_eq_eq, htexts]
    simp
  rw [List.forall₂_map_left_iff, List.forall₂_map_right_iff] at hsame
  exact hsame.imp fun item token h => Token.Item.isReadAs_of_text h.symm

/-- Brackets of three kinds, one of them empty and one with an escaped closer and an opener of its own
in its content, with a connector that has an escaped opener and ends with two backslashes. -/
theorem Kind.forall₂_tokenize_write_activity :
    let items : List Token.Item :=
      [.bracket '(' "a\\)<b> [c]".toList, .connector "x\\(y->\\\\".toList, .bracket '|' [],
        .bracket '<' "|d".toList]
    let entries := ["\u3000".toList, [], "\r\n".toList, []].zip items
    (∀ entry ∈ entries, entry.2.IsClear (Kind.openers .activity)) ∧
      ((entries.map Prod.snd).IsChain fun first second =>
        ¬ (first.isConnector = true ∧ second.isConnector = true)) ∧
      (∀ entry ∈ entries, ∀ c ∈ entry.1, Text.isBlank c = true) ∧
      Token.write entries [' '] = "\u3000(a\\)<b> [c])x\\(y->\\\\\r\n||<|d> ".toList ∧
      List.Forall₂ Token.Item.IsReadAs items
        (tokenize (Kind.openers .activity) (Token.write entries [' ']) 7) := by
  intro items entries
  have hclear : ∀ entry ∈ entries, entry.2.IsClear (Kind.openers .activity) := by
    simp only [entries, items, List.zip_cons_cons, List.zip_nil_right, List.forall_mem_cons]
    have htrimmed : Text.IsTrimmed "x\\(y->\\\\".toList :=
      ⟨fun c hc => by cases hc; decide, fun c hc => by cases hc; decide⟩
    exact ⟨⟨by decide, by decide⟩, ⟨by decide, htrimmed, by decide⟩, ⟨by decide, by decide⟩,
      ⟨by decide, by decide⟩, by simp⟩
  have hapart : (entries.map Prod.snd).IsChain fun first second =>
      ¬ (first.isConnector = true ∧ second.isConnector = true) := by decide
  have hgaps : ∀ entry ∈ entries, ∀ c ∈ entry.1, Text.isBlank c = true := by
    have hall : (entries.all fun entry => entry.1.all Text.isBlank) = true := by decide
    simpa only [List.all_eq_true] using hall
  exact ⟨hclear, hapart, hgaps, by decide,
    forall₂_tokenize_write .activity hclear hapart hgaps (List.all_eq_true.mp (by decide)) 7⟩

end UmlSketch
