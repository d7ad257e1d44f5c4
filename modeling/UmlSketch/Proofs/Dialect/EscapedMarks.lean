import UmlSketch.Proofs.Dialect.Messages
import UmlSketch.Proofs.Dialect.Texts
import UmlSketch.Proofs.Text.Splitting

/-! # Escaped marks of connectors
An escaped mark is no part of a separator or an arrow. For most dialects this holds of every connector
that is read: its escaped marks are those of the texts it carries, and they have no effect on
anything else, since hiding them hides them in the texts and changes nothing else
(`Kind.keepsEscaped_of_readToken`). The markers at the ends of an association and the arrow of a message are
taken off without regard to escapes, so in class and sequence diagrams the same is true only of
connectors where no such place is escaped (`Kind.KeepsMarks`). -/

namespace UmlSketch

/-! ## Texts of a connector -/

/-- The **token with its escaped marks hidden**. -/
def Token.hideMarks (token : Token) : Token := { token with text := token.text.hideMarks }

namespace Expr

/-- The texts that a connector carries, from left to right. -/
def texts : Expr → List Text
  | .node _ => []
  | .edge link => link.label.toList ++ link.tailLabel.toList ++ link.headLabel.toList
  | .signal message => [message.text]

/-- The **connector with the escaped marks hidden** in the texts it carries. -/
def hideMarks : Expr → Expr
  | .node bracket => .node bracket
  | .edge link => .edge
    { link with
      label := link.label.map Text.hideMarks
      tailLabel := link.tailLabel.map Text.hideMarks
      headLabel := link.headLabel.map Text.hideMarks }
  | .signal message => .signal { message with text := message.text.hideMarks }

end Expr

/-- Whether the escaped marks of a token are those of the texts of a connector, and have no effect on
anything else when the token is read. -/
structure Kind.KeepsEscaped (kind : Kind) (token : Token) (expr : Expr) : Prop where
  /-- The escaped marks stay in the texts. -/
  escapedMarks : expr.texts.flatMap Text.escapedMarks = token.text.escapedMarks
  /-- Hiding them changes nothing else. -/
  readToken : kind.readToken token.hideMarks = .ok expr.hideMarks

namespace Text

/-- Whether a pattern that ends a text is not escaped. -/
def EndsFree (pattern text : Text) : Prop :=
  ∀ before, text = before ++ pattern → endsEscaping before = false

/-- An end is not escaped exactly if it is taken off the same way whether escapes count or not. -/
theorem endsFree_iff {pattern text : Text} :
    EndsFree pattern text ↔ dropUnescapedSuffix? pattern text = dropEnd? pattern text := by
  constructor
  · intro h
    ext before
    rw [dropUnescapedSuffix?_eq_some_iff, dropEnd?_eq_some_iff]
    exact ⟨fun hbefore => hbefore.1, fun hbefore => ⟨hbefore, h before hbefore⟩⟩
  · intro h before htext
    have hbefore := dropEnd?_eq_some_iff.mpr htext
    rw [← h, dropUnescapedSuffix?_eq_some_iff] at hbefore
    exact hbefore.2

instance (pattern text : Text) : Decidable (EndsFree pattern text) :=
  decidable_of_iff _ endsFree_iff.symm

/-- Taking off an end that is not escaped commutes with hiding marks. -/
theorem EndsFree.dropEnd?_hideMarks {sign text : Text} (hsign : IsSign sign)
    (h : EndsFree sign text) :
    dropEnd? sign text.hideMarks = (dropEnd? sign text).map hideMarks := by
  rw [Text.dropEnd?_hideMarks hsign, endsFree_iff.mp h]

end Text

namespace Classes

/-! ## Ends of associations -/

/-- The markers that are taken off the end of a side. -/
def endMarkers : List Text := [['>'], ['+'], ['^'], ['<', '>'], ['+', '+']]

variable {side : Text}

/-- Readings of a text with hidden marks are those of the text, with their marks hidden. -/
theorem findSome?_hideMarks (readings : List (ArrowKind × Option Text)) (default : ArrowKind × Text) :
    ((readings.map (Prod.map id (Option.map Text.hideMarks))).findSome?
        fun (arrow, rest?) => rest?.map (Prod.mk arrow)).getD (Prod.map id Text.hideMarks default) =
      Prod.map id Text.hideMarks
        ((readings.findSome? fun (arrow, rest?) => rest?.map (Prod.mk arrow)).getD default) := by
  induction readings with
  | nil => rfl
  | cons reading readings ih =>
    obtain ⟨arrow, rest?⟩ := reading
    cases rest? with
    | none => simpa using ih
    | some rest => rfl

/-- The left end is read regardless of escaped marks, if no end of the side is escaped. -/
theorem leftEnd_hideMarks (h : ∀ marker ∈ endMarkers, Text.EndsFree marker side) :
    leftEnd side.hideMarks = Prod.map id Text.hideMarks (leftEnd side) := by
  have hpoint := (h ['>'] (by decide)).dropEnd?_hideMarks (by decide)
  unfold leftEnd
  rw [← findSome?_hideMarks]
  simp only [List.map_cons, List.map_nil, Prod.map, id, hpoint,
    Text.dropStart?_hideMarks (show Text.IsSign ['<', '>'] by decide),
    Text.dropStart?_hideMarks (show Text.IsSign ['+', '+'] by decide),
    Text.dropStart?_hideMarks (show Text.IsSign ['+'] by decide),
    Text.dropStart?_hideMarks (show Text.IsSign ['<'] by decide),
    Text.dropStart?_hideMarks (show Text.IsSign ['^'] by decide)]

/-- The right end is read regardless of escaped marks, if no end of the side is escaped. -/
theorem rightEnd_hideMarks (h : ∀ marker ∈ endMarkers, Text.EndsFree marker side) :
    rightEnd side.hideMarks = Prod.map id Text.hideMarks (rightEnd side) := by
  unfold rightEnd
  rw [leftEnd_hideMarks h, ← findSome?_hideMarks]
  simp only [List.map_cons, List.map_nil, Prod.map, id,
    (h ['<', '>'] (by decide)).dropEnd?_hideMarks (by decide),
    (h ['+', '+'] (by decide)).dropEnd?_hideMarks (by decide),
    (h ['+'] (by decide)).dropEnd?_hideMarks (by decide),
    (h ['>'] (by decide)).dropEnd?_hideMarks (by decide),
    (h ['^'] (by decide)).dropEnd?_hideMarks (by decide),
    Text.dropStart?_hideMarks (show Text.IsSign ['>'] by decide)]

/-- A marker at the start of a side has no escaped marks. -/
theorem escapedMarks_of_dropStart? {marker rest : Text} (hmarker : Text.IsSign marker)
    (h : Text.dropStart? marker side = some rest) : rest.escapedMarks = side.escapedMarks := by
  rw [Text.dropStart?_eq_some h, Text.escapedMarks_sign_append hmarker]

/-- A marker at the end of a side has no escaped marks, if it is not escaped. -/
theorem escapedMarks_of_dropEnd? {marker rest : Text} (hmarker : Text.IsSign marker)
    (hfree : Text.EndsFree marker side) (h : Text.dropEnd? marker side = some rest) :
    rest.escapedMarks = side.escapedMarks := by
  have hside := Text.dropEnd?_eq_some h
  rw [hside, Text.escapedMarks_append_sign hmarker (hfree rest hside)]

/-- The text at the left end keeps the escaped marks of its side. -/
theorem escapedMarks_leftEnd (h : ∀ marker ∈ endMarkers, Text.EndsFree marker side) :
    (leftEnd side).2.escapedMarks = side.escapedMarks := by
  refine snd_of_findSome? (P := fun rest => rest.escapedMarks = side.escapedMarks) rfl ?_
  simp only [List.forall_mem_cons]
  exact ⟨fun _ => escapedMarks_of_dropStart? (by decide),
    fun _ => escapedMarks_of_dropStart? (by decide),
    fun _ => escapedMarks_of_dropStart? (by decide),
    fun _ => escapedMarks_of_dropStart? (by decide),
    fun _ => escapedMarks_of_dropEnd? (by decide) (h _ (by decide)),
    fun _ => escapedMarks_of_dropStart? (by decide), by simp⟩

/-- The text at the right end keeps the escaped marks of its side. -/
theorem escapedMarks_rightEnd (h : ∀ marker ∈ endMarkers, Text.EndsFree marker side) :
    (rightEnd side).2.escapedMarks = side.escapedMarks := by
  refine snd_of_findSome? (P := fun rest => rest.escapedMarks = side.escapedMarks)
    (escapedMarks_leftEnd h) ?_
  simp only [List.forall_mem_cons]
  exact ⟨fun _ => escapedMarks_of_dropEnd? (by decide) (h _ (by decide)),
    fun _ => escapedMarks_of_dropEnd? (by decide) (h _ (by decide)),
    fun _ => escapedMarks_of_dropEnd? (by decide) (h _ (by decide)),
    fun _ => escapedMarks_of_dropEnd? (by decide) (h _ (by decide)),
    fun _ => escapedMarks_of_dropEnd? (by decide) (h _ (by decide)),
    fun _ => escapedMarks_of_dropStart? (by decide), by simp⟩

/-- Whether no separator or end marker of an association is escaped. -/
def KeepsMarks (text : Text) : Prop :=
  Text.NeverEscaped ['-', '.', '-'] text ∧
    ∀ side ∈ Text.splitUnescaped (separatorOf text) text, ∀ marker ∈ endMarkers,
      Text.EndsFree marker side

instance (text : Text) : Decidable (KeepsMarks text) := inferInstanceAs (Decidable (_ ∧ _))

theorem isSign_separatorOf (text : Text) : Text.IsSign (separatorOf text) := by
  unfold separatorOf
  split <;> decide

/-- The separator of an association is found regardless of escaped marks. -/
theorem separatorOf_hideMarks {text : Text} (hfree : Text.NeverEscaped ['-', '.', '-'] text) :
    separatorOf text.hideMarks = separatorOf text ∧
      Text.splitUnescaped (separatorOf text) text.hideMarks =
        (Text.splitUnescaped (separatorOf text) text).map Text.hideMarks := by
  constructor
  · rw [separatorOf, Text.containsUnescaped_hideMarks (by decide) (Or.inr hfree), separatorOf]
  · refine Text.splitUnescaped_hideMarks (isSign_separatorOf text) ?_
    unfold separatorOf
    split
    · exact Or.inr hfree
    · exact Or.inl rfl

/-- An association keeps its escaped marks. -/
theorem keeps_association {token : Token} {expr : Expr} (hfree : KeepsMarks token.text)
    (h : association token = .ok expr) :
    expr.texts.flatMap Text.escapedMarks = token.text.escapedMarks ∧
      association token.hideMarks = .ok expr.hideMarks := by
  obtain ⟨left, right, hsplit, rfl⟩ := association_eq_ok_iff.mp h
  obtain ⟨hdashed, hends⟩ := hfree
  rw [hsplit, List.forall_mem_cons, List.forall_mem_singleton] at hends
  obtain ⟨hleft, hright⟩ := hends
  constructor
  · have hparts := Text.escapedMarks_splitUnescaped (isSign_separatorOf token.text) token.text
    rw [hsplit] at hparts
    rw [← hparts]
    simp [Expr.texts, escapedMarks_nonEmptyLabel?, escapedMarks_leftEnd hleft,
      escapedMarks_rightEnd hright]
  · -- The text with hidden marks has the same separator and is split at the same place.
    obtain ⟨hseparator, hparts⟩ := separatorOf_hideMarks hdashed
    refine association_eq_ok_iff.mpr ⟨left.hideMarks, right.hideMarks, ?_, ?_⟩
    · rw [Token.hideMarks, hseparator, hparts, hsplit]
      rfl
    · rw [leftEnd_hideMarks hleft, rightEnd_hideMarks hright]
      simp [Expr.hideMarks, Token.hideMarks, nonEmptyLabel?_hideMarks,
        Text.containsUnescaped_hideMarks (show Text.IsSign ['-', '.', '-'] by decide) (Or.inr hdashed)]

end Classes

/-! ## Readings that respect escapes -/

namespace Reading

variable {token : Token}

/-- Whether a reading of a token keeps its escaped marks, and another is the same with them hidden. -/
structure Keeps (token : Token) (reading hidden : Option Expr) : Prop where
  /-- Hiding marks hides them in the texts and changes nothing else. -/
  eq_map : hidden = reading.map Expr.hideMarks
  /-- The escaped marks are those of the texts. -/
  escapedMarks : ∀ expr ∈ reading, expr.texts.flatMap Text.escapedMarks = token.text.escapedMarks

/-- A token that is no bracket is not read as one, and the same holds with its marks hidden. -/
theorem keeps_enclosed? {opener : Char} (h : token.text.head? ≠ some opener) (closer : Char)
    (f g : Text → Expr) :
    Keeps token ((token.enclosed? opener closer).map f)
      ((token.hideMarks.enclosed? opener closer).map g) := by
  have hhidden : token.hideMarks.text.head? ≠ some opener := by
    rwa [Token.hideMarks, Text.head?_hideMarks]
  rw [Token.enclosed?_eq_none_of_head h, Token.enclosed?_eq_none_of_head hhidden]
  exact ⟨rfl, by simp⟩

/-- A label before a sign that is not escaped keeps the escaped marks. -/
theorem keeps_dropUnescapedSuffix? {sign : Text} (hsign : Text.IsSign sign) (token : Token)
    {f : Text → Expr} (hhide : ∀ label, f label.hideMarks = (f label).hideMarks)
    (htexts : ∀ label, (f label).texts.flatMap Text.escapedMarks = label.escapedMarks) :
    Keeps token ((Text.dropUnescapedSuffix? sign token.text).map f)
      ((Text.dropUnescapedSuffix? sign token.hideMarks.text).map f) where
  eq_map := by
    rw [Token.hideMarks, Text.dropUnescapedSuffix?_hideMarks hsign, Option.map_map, Option.map_map]
    exact congrArg (Option.map · _) (funext hhide)
  escapedMarks := by
    rintro expr hexpr
    obtain ⟨label, hlabel, rfl⟩ := Option.map_eq_some_iff.mp hexpr
    obtain ⟨htext, hstate⟩ := Text.dropUnescapedSuffix?_eq_some_iff.mp hlabel
    rw [htext, Text.escapedMarks_append_sign hsign hstate, htexts]

/-- An arrow that is read is not escaped. -/
theorem keeps_arrow? (token : Token) (line : LineStyle) :
    Keeps token (arrow? token line) (arrow? token.hideMarks line) := by
  refine keeps_dropUnescapedSuffix? (by decide) token (fun label => ?_) fun label => ?_
  · simp [Expr.hideMarks, nonEmptyLabel?_hideMarks]
  · simp [Expr.texts, escapedMarks_nonEmptyLabel?]

/-- A dash that ends a link is not escaped. -/
theorem keeps_link (token : Token) :
    Keeps token
      ((Text.dropUnescapedSuffix? ['-'] token.text).map fun label =>
        .edge { label := nonEmptyLabel? label, span := token.span })
      ((Text.dropUnescapedSuffix? ['-'] token.hideMarks.text).map fun label =>
        .edge { label := nonEmptyLabel? label, span := token.hideMarks.span }) := by
  refine keeps_dropUnescapedSuffix? (by decide) token (fun label => ?_) fun label => ?_
  · simp [Expr.hideMarks, nonEmptyLabel?_hideMarks]
  · simp [Expr.texts, escapedMarks_nonEmptyLabel?]

/-- A single dash is not escaped. -/
theorem keeps_dash? (token : Token) (line : LineStyle) :
    Keeps token (dash? token line) (dash? token.hideMarks line) := by
  unfold dash?
  by_cases h : token.text = ['-']
  · have hhidden : token.hideMarks.text = ['-'] := Text.hideMarks_eq_singleton_iff.mpr h
    rw [if_pos h, if_pos hhidden]
    refine ⟨rfl, fun expr hexpr => ?_⟩
    obtain rfl := Option.some.inj hexpr
    rw [h]
    rfl
  · have hhidden : token.hideMarks.text ≠ ['-'] := mt Text.hideMarks_eq_singleton_iff.mp h
    rw [if_neg h, if_neg hhidden]
    exact ⟨rfl, by simp⟩

/-- A connector of a single character is not escaped. -/
theorem keeps_edge? (token : Token) :
    Keeps token ((UseCases.edge? token).map .edge) ((UseCases.edge? token.hideMarks).map .edge) := by
  have hnone {other : Token} (hother : ∀ c, other.text ≠ [c]) : UseCases.edge? other = none := by
    unfold UseCases.edge?
    split <;> simp_all
  -- Each of these connectors is a single character, and a single character is never escaped.
  by_cases h : ∃ c, token.text = [c]
  · obtain ⟨c, hc⟩ := h
    have hhidden : token.hideMarks = token := by
      rw [Token.hideMarks, Text.hideMarks_eq_singleton_iff.mpr hc, ← hc]
    rw [hhidden]
    unfold UseCases.edge?
    constructor
    · split <;> rfl
    · rintro expr hexpr
      rw [hc]
      split at hexpr <;> cases hexpr <;> rfl
  · rw [not_exists] at h
    have hhidden (c : Char) : token.hideMarks.text ≠ [c] :=
      mt Text.hideMarks_eq_singleton_iff.mp (h c)
    rw [hnone h, hnone hhidden]
    exact ⟨rfl, by simp⟩

/-- The first reading that succeeds keeps the escaped marks if all readings do. -/
theorem keeps_findSome? {readings hidden : List (Option Expr)}
    (hkeeps : List.Forall₂ (Keeps token) readings hidden) :
    Keeps token (readings.findSome? id) (hidden.findSome? id) := by
  induction hkeeps with
  | nil => exact ⟨rfl, by simp⟩
  | @cons reading _ _ _ hreading _ ih =>
    rw [List.findSome?_cons, List.findSome?_cons, hreading.eq_map]
    cases reading with
    | none => exact ih
    | some first => exact ⟨rfl, hreading.escapedMarks⟩

/-- A dialect whose readings all keep the escaped marks keeps them. -/
theorem keepsEscaped_of_firstOf {kind : Kind} {readings hidden : List (Option Expr)} {expr : Expr}
    (hread : kind.readToken token = firstOf kind token readings)
    (hhidden : kind.readToken token.hideMarks = firstOf kind token.hideMarks hidden)
    (hkeeps : List.Forall₂ (Keeps token) readings hidden) (h : kind.readToken token = .ok expr) :
    kind.KeepsEscaped token expr := by
  rw [hread, firstOf_eq_ok_iff] at h
  have hfirst := keeps_findSome? hkeeps
  refine ⟨hfirst.escapedMarks expr h, ?_⟩
  -- A reading of the hidden token succeeds exactly if the same one of the token does.
  rw [hhidden, firstOf_eq_ok_iff, hfirst.eq_map, h]
  rfl

end Reading

/-! ## Messages -/

namespace Sequences

/-- A pattern is found regardless of hidden marks, if none of its occurrences is hidden. -/
theorem contains_hideMarks {pattern text : Text} (hpattern : 'x' ∉ pattern)
    (hvisible : ∀ before after, text = before ++ (pattern ++ after) →
      Text.hideMarksFrom (Text.endsEscaping before) pattern = pattern) :
    contains pattern text.hideMarks = contains pattern text := by
  rw [Bool.eq_iff_iff, contains_iff, contains_iff]
  constructor
  · rintro ⟨before, after, h⟩
    obtain ⟨front, back, rfl, -, hback⟩ := Text.hideMarks_eq_append_iff.mp h
    obtain ⟨middle, rest, rfl, hmiddle, -⟩ := Text.hideMarksFrom_eq_append_iff.mp hback
    exact ⟨front, rest, by rw [Text.eq_of_hideMarksFrom_eq hpattern hmiddle]⟩
  · rintro ⟨before, after, rfl⟩
    rw [Text.hideMarks_append, Text.hideMarksFrom_append, hvisible before after rfl]
    exact ⟨_, _, rfl⟩

/-- The places where the arrow of a message is looked for. -/
def arrowEnds : List Text := [['>'], ['>', '('], ['>', ')']]

/-- Whether no arrow of a message is escaped. -/
def KeepsMarks (text : Text) : Prop :=
  Text.NeverEscaped ['>', '>'] text ∧ ∀ ending ∈ arrowEnds, Text.EndsFree ending text

instance (text : Text) : Decidable (KeepsMarks text) := inferInstanceAs (Decidable (_ ∧ _))

/-- The style of a message does not depend on escaped marks, if no double arrow is escaped. -/
theorem styleOf_hideMarks {text : Text} (hfree : Text.NeverEscaped ['>', '>'] text) :
    styleOf text.hideMarks = styleOf text := by
  have hasync : contains ['>', '>'] text.hideMarks = contains ['>', '>'] text := by
    refine contains_hideMarks (by decide) fun before after h => ?_
    rw [Text.endsEscaping_eq_foldl, hfree before after h]
    rfl
  have hdashed : contains ['.', '>'] text.hideMarks = contains ['.', '>'] text := by
    -- A point behind a dot is never escaped.
    refine contains_hideMarks (by decide) fun before after _ => ?_
    cases Text.endsEscaping before <;> rfl
  rw [styleOf, hasync, hdashed, styleOf]

/-- What is the arrow behind a text is the arrow behind the text with hidden marks. -/
theorem IsArrow.hideMarks {before arrow : Text} (h : IsArrow before arrow) :
    IsArrow before.hideMarks arrow := by
  rcases h with h | h | ⟨h, hdot, hpoint⟩
  · exact Or.inl h
  · exact Or.inr (Or.inl h)
  · refine Or.inr (Or.inr ⟨h, ?_⟩)
    cases before using List.reverseRecOn with
    | nil => exact ⟨hdot, hpoint⟩
    | append_singleton before c =>
      -- What is put in the place of an escaped mark is neither a dot nor a point.
      have hlast : (Text.hideMarks (before ++ [c])).getLast? =
          some (Text.hide (c, Text.endsEscaping before)) := by
        rw [Text.hideMarks_append]
        exact List.getLast?_concat
      rw [List.getLast?_concat] at hdot hpoint
      rw [hlast]
      unfold Text.hide
      split
      · exact ⟨by decide, by decide⟩
      · exact ⟨hdot, hpoint⟩

/-- The arrow and the marker of a message have no escaped marks, if no arrow is escaped. -/
theorem keeps_arrow {body text arrow marker : Text} {target : Option Activation}
    (hfree : KeepsMarks body) (hbody : body = text ++ (arrow ++ marker)) (harrow : IsArrow text arrow)
    (hmarker : IsMarker marker target) :
    Text.hideMarksFrom (Text.endsEscaping text) (arrow ++ marker) = arrow ++ marker ∧
      Text.escapedMarksFrom (Text.endsEscaping text) (arrow ++ marker) = [] := by
  have hround : marker = [] ∨ marker = ['('] ∨ marker = [')'] := by
    rcases hmarker with ⟨rfl, -⟩ | ⟨c, activation, rfl, hc, -⟩
    · exact Or.inl rfl
    · simpa using Activation.exists_ofMarker?_iff.mp ⟨activation, hc⟩
  rcases harrow with rfl | rfl | ⟨rfl, -⟩
  · -- A point behind a dot is never escaped.
    cases Text.endsEscaping text <;> rcases hround with rfl | rfl | rfl <;> exact ⟨rfl, rfl⟩
  · rw [Text.endsEscaping_eq_foldl, hfree.1 text marker hbody]
    rcases hround with rfl | rfl | rfl <;> exact ⟨rfl, rfl⟩
  · have hending : '>' :: marker ∈ arrowEnds := by
      rcases hround with rfl | rfl | rfl <;> decide
    rw [hfree.2 _ hending text hbody]
    rcases hround with rfl | rfl | rfl <;> exact ⟨rfl, rfl⟩

/-- A message is taken apart regardless of escaped marks, if no arrow is escaped. -/
theorem keeps_splitArrow? {body text : Text} {target : Option Activation} (hfree : KeepsMarks body)
    (h : splitArrow? body = some (text, target)) :
    text.escapedMarks = body.escapedMarks ∧
      splitArrow? body.hideMarks = some (text.hideMarks, target) := by
  obtain ⟨arrow, marker, hbody, harrow, hmarker⟩ := splitArrow?_eq_some_iff.mp h
  obtain ⟨hvisible, hmarks⟩ := keeps_arrow hfree hbody harrow hmarker
  constructor
  · rw [hbody, Text.escapedMarks_append, hmarks, List.append_nil]
  · refine splitArrow?_eq_some_iff.mpr ⟨arrow, marker, ?_, harrow.hideMarks, hmarker⟩
    rw [hbody, Text.hideMarks_append, hvisible]

/-- What is not escaped in a message is not escaped behind its first character. -/
theorem KeepsMarks.of_cons {c : Char} (hc : c ≠ '\\') {rest : Text} (h : KeepsMarks (c :: rest)) :
    KeepsMarks rest := by
  have hfirst : Text.endsEscaping [c] = false :=
    Text.endsEscaping_of_not_mem (by simpa using hc.symm)
  have hstate (before : Text) : Text.endsEscaping (c :: before) = Text.endsEscaping before :=
    Text.endsEscaping_append_of_false hfirst before
  constructor
  · rintro before after rfl
    rw [← Text.endsEscaping_eq_foldl, ← hstate, Text.endsEscaping_eq_foldl]
    exact h.1 (c :: before) after rfl
  · rintro ending hending before rfl
    rw [← hstate]
    exact h.2 ending hending (c :: before) rfl

/-- The marker of the sender is neither a mark nor a backslash. -/
theorem keeps_bodyOf (text : Text) :
    bodyOf text.hideMarks = (bodyOf text).hideMarks ∧
      (bodyOf text).escapedMarks = text.escapedMarks ∧
      (KeepsMarks text → KeepsMarks (bodyOf text)) := by
  cases text with
  | nil => exact ⟨rfl, rfl, id⟩
  | cons c rest =>
    cases hmarker : Activation.ofMarker? c with
    | none =>
      have hbody (tail : Text) : bodyOf (c :: tail) = c :: tail := by
        rw [bodyOf, List.head?_cons, Option.bind_some, hmarker]
        rfl
      rw [hbody]
      exact ⟨hbody _, rfl, id⟩
    | some activation =>
      rcases Activation.exists_ofMarker?_iff.mp ⟨activation, hmarker⟩ with rfl | rfl
      · exact ⟨rfl, rfl, KeepsMarks.of_cons (by decide)⟩
      · exact ⟨rfl, rfl, KeepsMarks.of_cons (by decide)⟩

/-- A message keeps its escaped marks. -/
theorem keeps_signal {token : Token} {expr : Expr} (hfree : KeepsMarks token.text)
    (h : signal token = .ok expr) :
    expr.texts.flatMap Text.escapedMarks = token.text.escapedMarks ∧
      signal token.hideMarks = .ok expr.hideMarks := by
  obtain ⟨text, target, hsplit, rfl⟩ := signal_eq_ok_iff.mp h
  -- The style is read off the whole token, the text off what follows the marker of the sender.
  obtain ⟨hbody, hmarks, hkeeps⟩ := keeps_bodyOf token.text
  obtain ⟨htext, hhidden⟩ := keeps_splitArrow? (hkeeps hfree) hsplit
  constructor
  · rw [← hmarks, ← htext]
    simp [Expr.texts, Text.escapedMarks_trim]
  · refine signal_eq_ok_iff.mpr ⟨text.hideMarks, target, ?_, ?_⟩
    · rw [Token.hideMarks, hbody, hhidden]
    · simp [Expr.hideMarks, Token.hideMarks, Text.trim_hideMarks, styleOf_hideMarks hfree.1]

end Sequences

/-! ## Connectors of all dialects -/

namespace Kind

/-- Whether no separator, arrow or marker at an end of a connector is escaped. Only the dialects that
take one off without regard to escapes ask for it. -/
def KeepsMarks (kind : Kind) (text : Text) : Prop :=
  match kind with
  | .classes => Classes.KeepsMarks text
  | .sequence => Sequences.KeepsMarks text
  | _ => True

instance : (kind : Kind) → (text : Text) → Decidable (kind.KeepsMarks text)
  | .classes, text => inferInstanceAs (Decidable (Classes.KeepsMarks text))
  | .sequence, text => inferInstanceAs (Decidable (Sequences.KeepsMarks text))
  | .useCase, _ | .activity, _ | .state, _ | .deployment, _ | .package, _ =>
    inferInstanceAs (Decidable True)

theorem keepsEscaped_classes {token : Token} {expr : Expr} (hhead : token.text.head? ≠ some '[')
    (hfree : Classes.KeepsMarks token.text) (h : readToken .classes token = .ok expr) :
    KeepsEscaped .classes token expr := by
  have hread (other : Token) (hother : other.text.head? ≠ some '[') :
      readToken .classes other =
        if other.text = ['^'] then .ok (.edge { tail := .empty, span := other.span })
        else if Text.containsUnescaped ['-'] other.text then Classes.association other
        else .error (.unrecognized .classes other) := by
    rw [readToken, Classes.readToken, Token.enclosed?_eq_none_of_head hother]
  have hhidden : token.hideMarks.text.head? ≠ some '[' := by
    rwa [Token.hideMarks, Text.head?_hideMarks]
  have hcontains : Text.containsUnescaped ['-'] token.hideMarks.text =
      Text.containsUnescaped ['-'] token.text :=
    Text.containsUnescaped_hideMarks (by decide) (Or.inl rfl)
  rw [hread token hhead] at h
  -- Which rule applies does not depend on the escaped marks.
  by_cases hcaret : token.text = ['^']
  · have hcaret' : token.hideMarks.text = ['^'] := Text.hideMarks_eq_singleton_iff.mpr hcaret
    rw [if_pos hcaret] at h
    cases h
    exact ⟨by rw [hcaret]; rfl, by rw [hread _ hhidden, if_pos hcaret']; rfl⟩
  · have hcaret' : token.hideMarks.text ≠ ['^'] := mt Text.hideMarks_eq_singleton_iff.mp hcaret
    rw [if_neg hcaret] at h
    split at h
    · rename_i hdash
      obtain ⟨hmarks, hassociation⟩ := Classes.keeps_association hfree h
      refine ⟨hmarks, ?_⟩
      rw [hread _ hhidden, if_neg hcaret', if_pos (hcontains.trans hdash), hassociation]
    · cases h

theorem keepsEscaped_sequence {token : Token} {expr : Expr} (hhead : token.text.head? ≠ some '[')
    (hfree : Sequences.KeepsMarks token.text) (h : readToken .sequence token = .ok expr) :
    KeepsEscaped .sequence token expr := by
  have hread (other : Token) (hother : other.text.head? ≠ some '[') :
      readToken .sequence other =
        if other.text.contains '>' then Sequences.signal other
        else if other.text = ['-'] then .ok (.edge { span := other.span })
        else .error (.unrecognized .sequence other) := by
    rw [readToken, Sequences.readToken, Token.enclosed?_eq_none_of_head hother]
  have hhidden : token.hideMarks.text.head? ≠ some '[' := by
    rwa [Token.hideMarks, Text.head?_hideMarks]
  rw [hread token hhead] at h
  split at h
  · obtain ⟨hmarks, hsignal⟩ := Sequences.keeps_signal hfree h
    have hpoint : token.hideMarks.text.contains '>' = true :=
      List.contains_iff_mem.mpr (Sequences.point_mem_of_signal hsignal)
    exact ⟨hmarks, by rw [hread _ hhidden, if_pos hpoint, hsignal]⟩
  · split at h
    · rename_i hdash
      have hdash' : token.hideMarks.text = ['-'] := Text.hideMarks_eq_singleton_iff.mpr hdash
      have hpoint : token.hideMarks.text.contains '>' ≠ true := by
        rw [hdash']
        decide
      cases h
      exact ⟨by rw [hdash]; rfl, by rw [hread _ hhidden, if_neg hpoint, if_pos hdash']; rfl⟩
    · cases h

/-- **An escaped mark of a connector stays in its texts and has no effect on anything else**, unless
it stands where a class or a sequence diagram takes a mark off without regard to escapes. -/
theorem keepsEscaped_of_readToken {kind : Kind} {token : Token} {expr : Expr}
    (hconnector : ∀ opener ∈ kind.openers, token.text.head? ≠ some opener)
    (hfree : kind.KeepsMarks token.text) (h : kind.readToken token = .ok expr) :
    kind.KeepsEscaped token expr := by
  cases kind with
  | classes => exact keepsEscaped_classes (hconnector '[' (by decide)) hfree h
  | useCase =>
    refine Reading.keepsEscaped_of_firstOf rfl rfl (.cons ?_ (.cons ?_ (.cons ?_ .nil))) h
    · exact Reading.keeps_enclosed? (hconnector '(' (by decide)) ')' _ _
    · exact Reading.keeps_enclosed? (hconnector '[' (by decide)) ']' _ _
    · exact Reading.keeps_edge? token
  | activity =>
    refine Reading.keepsEscaped_of_firstOf rfl rfl
      (.cons ?_ (.cons ?_ (.cons ?_ (.cons ?_ (.cons ?_ .nil))))) h
    · exact Reading.keeps_enclosed? (hconnector '(' (by decide)) ')' _ _
    · exact Reading.keeps_enclosed? (hconnector '<' (by decide)) '>' _ _
    · exact Reading.keeps_enclosed? (hconnector '|' (by decide)) '|' _ _
    · exact Reading.keeps_arrow? token .solid
    · exact Reading.keeps_dash? token .solid
  | state =>
    refine Reading.keepsEscaped_of_firstOf rfl rfl (.cons ?_ (.cons ?_ (.cons ?_ .nil))) h
    · exact Reading.keeps_enclosed? (hconnector '(' (by decide)) ')' _ _
    · exact Reading.keeps_arrow? token .solid
    · exact Reading.keeps_dash? token .solid
  | deployment =>
    refine Reading.keepsEscaped_of_firstOf rfl rfl (.cons ?_ (.cons ?_ .nil)) h
    · exact Reading.keeps_enclosed? (hconnector '[' (by decide)) ']' _ _
    · exact Reading.keeps_link token
  | package =>
    refine Reading.keepsEscaped_of_firstOf rfl rfl (.cons ?_ (.cons ?_ (.cons ?_ .nil))) h
    · exact Reading.keeps_enclosed? (hconnector '[' (by decide)) ']' _ _
    · exact Reading.keeps_dash? token .dashed
    · exact Reading.keeps_arrow? token .dashed
  | sequence => exact keepsEscaped_sequence (hconnector '[' (by decide)) hfree h

/-- The association `+a\>b-c\-d>` keeps a point and a dash in its labels. -/
theorem keepsEscaped_of_readToken_labels :
    (∀ opener ∈ openers .classes, "+a\\>b-c\\-d>".toList.head? ≠ some opener) ∧
      KeepsMarks .classes "+a\\>b-c\\-d>".toList ∧
      ∃ edge : EdgeExpr, edge.tailLabel = some "a\\>b".toList ∧ edge.headLabel = some "c\\-d".toList ∧
        readToken .classes ⟨"+a\\>b-c\\-d>".toList, .between 0 12⟩ = .ok (.edge edge) ∧
          KeepsEscaped .classes ⟨"+a\\>b-c\\-d>".toList, .between 0 12⟩ (.edge edge) := by
  have hconnector : ∀ opener ∈ openers .classes, "+a\\>b-c\\-d>".toList.head? ≠ some opener := by
    intro opener hopener
    obtain rfl := List.mem_singleton.mp hopener
    decide
  have hfree : KeepsMarks .classes "+a\\>b-c\\-d>".toList := by decide
  have hread : readToken .classes ⟨"+a\\>b-c\\-d>".toList, .between 0 12⟩ = .ok (.edge
      { tail := .hollowDiamond, head := .vee, tailLabel := some "a\\>b".toList
        headLabel := some "c\\-d".toList, span := .between 0 12 }) := by
    decide +kernel
  exact ⟨hconnector, hfree, _, rfl, rfl, hread, keepsEscaped_of_readToken hconnector hfree hread⟩

/-- **The end markers of an association and the arrow of a message are taken off though they are
escaped**: neither the association `a\>-b` nor the message `a\>>` keeps its point. -/
theorem readToken_of_escaped_end :
    (Text.escapedMarks "a\\>-b".toList = ['>'] ∧
      readToken .classes ⟨"a\\>-b".toList, .between 0 5⟩ = .ok (.edge
        { tail := .vee, tailLabel := some "a\\".toList, headLabel := some "b".toList
          span := .between 0 5 })) ∧
    (Text.escapedMarks "a\\>>".toList = ['>'] ∧
      readToken .sequence ⟨"a\\>>".toList, .between 0 4⟩ = .ok (.signal
        ⟨"a\\".toList, .async, none, none, .between 0 4⟩)) := by
  decide +kernel

end Kind

end UmlSketch
