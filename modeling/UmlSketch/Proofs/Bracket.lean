import Mathlib.Data.Bool.AllAny
import UmlSketch.Bracket
import UmlSketch.Proofs.Color

/-! # The color at the end of a bracket
A content is searched for a color from its end, one run of characters after the other. What is found is the
form `{bg:color}`, with spaces where they may stand, at the end of the content, and nothing else
(`BracketContent.splitColor?_eq_some_iff`). So there is one way at most to take a color off a content, a color
before the last one is a part of the text, and a blank behind the form hides it
(`BracketContent.ofText_blanks_iff`). -/

namespace UmlSketch

/-! ## Runs of characters -/

namespace Text

/-- A run of spaces. -/
def spaces (count : Nat) : Text := List.replicate count ' '

theorem eq_space_of_mem_spaces {count : Nat} {c : Char} (h : c ∈ spaces count) : c = ' ' :=
  List.eq_of_mem_replicate h

@[simp] theorem reverse_spaces (count : Nat) : (spaces count).reverse = spaces count :=
  List.reverse_replicate

/-- A text is a run of spaces and what is left without it. -/
theorem exists_eq_spaces_append (text : Text) :
    ∃ count, text = spaces count ++ text.dropWhile (· = ' ') := by
  refine ⟨(text.takeWhile (· = ' ')).length, ?_⟩
  have hrun : text.takeWhile (· = ' ') = spaces (text.takeWhile (· = ' ')).length :=
    List.eq_replicate_of_mem fun c hc => by simpa using List.mem_takeWhile_imp hc
  rw [← hrun, List.takeWhile_append_dropWhile]

/-- Spaces are passed up to the next character. -/
theorem dropWhile_space_eq_cons_iff {text rest : Text} {c : Char} (hc : c ≠ ' ') :
    text.dropWhile (· = ' ') = c :: rest ↔ ∃ count, text = spaces count ++ c :: rest := by
  constructor
  · intro h
    obtain ⟨count, heq⟩ := exists_eq_spaces_append text
    exact ⟨count, h ▸ heq⟩
  · rintro ⟨count, rfl⟩
    exact (span_append (fun d hd => decide_eq_true (eq_space_of_mem_spaces hd)) (by simpa using hc)).2

end Text

namespace BracketContent

open Text (spaces)

/-! ## The form of a color -/

/-- The specification of a color is read as one, and nothing else is. -/
theorem isColorSpec_iff {text : Text} : isColorSpec text = true ↔ Color.IsSpec text := by
  unfold isColorSpec
  split
  · -- A name does not start with `#`.
    rename_i digits
    have hname : ¬ Color.IsName ('#' :: digits) := by
      rintro ⟨letters, later, heq, hne, hletters, -⟩
      cases letters with
      | nil => exact hne rfl
      | cons c rest =>
        obtain ⟨rfl, -⟩ := List.cons.inj heq
        exact absurd (hletters '#' List.mem_cons_self) (by decide)
    simp [Color.IsSpec, hname, Color.isSome_hexValue?_toLower_iff]
  · rename_i hcode
    simp only [Bool.and_eq_true, Bool.not_eq_true', List.isEmpty_eq_false_iff, List.all_eq_true]
    constructor
    · rintro ⟨hne, hdigits⟩
      exact .inl ⟨_, _, List.takeWhile_append_dropWhile.symm, hne,
        fun c hc => List.mem_takeWhile_imp hc, hdigits⟩
    · rintro (⟨letters, digits, rfl, hne, hletters, hdigits⟩ | ⟨digits, rfl, -⟩)
      · -- Were some of the digits read as letters, there would only be fewer of them to check.
        rw [List.takeWhile_append_of_pos hletters, List.dropWhile_append_of_pos hletters]
        exact ⟨List.append_ne_nil_of_left_ne_nil hne _,
          fun c hc => hdigits c (List.dropWhile_subset _ hc)⟩
      · exact absurd rfl (hcode digits)

/-- A color in the **form** in which it stands at the end of a content, with the numbers of spaces before and
behind `bg` and before and behind the color. -/
def colorSuffix (a b c d : Nat) (color : Text) : Text :=
  '{' :: (spaces a ++ 'b' :: 'g' :: (spaces b ++ ':' :: (spaces c ++ (color ++ (spaces d ++ ['}'])))))

/-- Whether a content **ends in a color**, with a text before it. -/
def EndsInColor (content before color : Text) : Prop :=
  Color.IsSpec color ∧ ∃ a b c d, content = before ++ colorSuffix a b c d color

theorem reverse_append_colorSuffix (a b c d : Nat) (before color : Text) :
    (before ++ colorSuffix a b c d color).reverse =
      '}' :: (spaces d ++ (color.reverse ++ (spaces c ++
        ':' :: (spaces b ++ 'g' :: 'b' :: (spaces a ++ '{' :: before.reverse))))) := by
  simp [colorSuffix]

/-- The mark of a color is read backwards. -/
theorem dropColorMark?_eq_some_iff {reversed before : Text} :
    dropColorMark? reversed = some before ↔ ∃ a b c, reversed =
      spaces c ++ ':' :: (spaces b ++ 'g' :: 'b' :: (spaces a ++ '{' :: before)) := by
  constructor
  · intro h
    -- Each character that is looked for stands behind a run of spaces.
    unfold dropColorMark? at h
    split at h
    · rename_i afterColon hcolon
      split at h
      · rename_i afterWord hword
        split at h
        · rename_i left hbrace
          cases h
          obtain ⟨c, rfl⟩ := (Text.dropWhile_space_eq_cons_iff (by decide)).mp hcolon
          obtain ⟨b, rfl⟩ := (Text.dropWhile_space_eq_cons_iff (by decide)).mp hword
          obtain ⟨a, rfl⟩ := (Text.dropWhile_space_eq_cons_iff (by decide)).mp hbrace
          exact ⟨a, b, c, rfl⟩
        · cases h
      · cases h
    · cases h
  · rintro ⟨a, b, c, rfl⟩
    rw [dropColorMark?, (Text.dropWhile_space_eq_cons_iff (by decide)).mpr ⟨c, rfl⟩]
    simp only
    rw [(Text.dropWhile_space_eq_cons_iff (by decide)).mpr ⟨b, rfl⟩]
    simp only
    rw [(Text.dropWhile_space_eq_cons_iff (by decide)).mpr ⟨a, rfl⟩]
    rfl

/-- What stands between the closing brace and the mark of a color is read up to the mark. -/
theorem span_color {color mark : Text} (hcolor : Color.IsSpec color)
    (hmark : ∀ c ∈ mark.head?, c = ' ' ∨ c = ':') (d : Nat) :
    let inner := (spaces d ++ (color.reverse ++ mark)).dropWhile (· = ' ')
    (inner.takeWhile fun c => c ≠ ' ' && c ≠ ':') = color.reverse ∧
      (inner.dropWhile fun c => c ≠ ' ' && c ≠ ':') = mark := by
  have hspace : ' ' ∉ color := fun hmem => absurd (hcolor.isBlank_eq_false ' ' hmem) (by decide)
  have hspaces : (spaces d ++ (color.reverse ++ mark)).dropWhile (· = ' ') = color.reverse ++ mark := by
    refine (Text.span_append (fun c hc => decide_eq_true (Text.eq_space_of_mem_spaces hc)) ?_).2
    intro c hc
    have hmem : c ∈ color := by
      rw [List.head?_append, Option.mem_def, Option.or_eq_some_iff] at hc
      rcases hc with hhead | ⟨hnone, -⟩
      · exact List.mem_reverse.mp (List.mem_of_mem_head? hhead)
      · exact absurd (List.reverse_eq_nil_iff.mp (List.head?_eq_none_iff.mp hnone)) hcolor.ne_nil
    have hne : c ≠ ' ' := by
      rintro rfl
      exact hspace hmem
    simpa using hne
  rw [hspaces]
  refine Text.span_append ?_ ?_
  · intro c hc
    have hmem : c ∈ color := List.mem_reverse.mp hc
    have hne : c ≠ ' ' ∧ c ≠ ':' := by
      constructor
      · rintro rfl
        exact hspace hmem
      · rintro rfl
        exact hcolor.colon_not_mem hmem
    simpa using hne
  · intro c hc
    rcases hmark c hc with rfl | rfl <;> decide

/-- **What is taken off the end of a content** is a color in its form. -/
theorem splitColor?_eq_some_iff {content before color : Text} :
    splitColor? content = some (before, color) ↔
      '\n' ∉ before ∧ EndsInColor content before color := by
  constructor
  · intro h
    unfold splitColor? at h
    split at h
    · rename_i reversed hreverse
      simp only at h
      split at h
      · rename_i found hmark
        split at h
        · rename_i hread
          cases h
          rw [Bool.and_eq_true, isColorSpec_iff] at hread
          obtain ⟨a, b, c, hmark⟩ := dropColorMark?_eq_some_iff.mp hmark
          obtain ⟨d, hspaces⟩ := Text.exists_eq_spaces_append reversed
          -- The runs, one behind the other, are the content read backwards.
          refine ⟨by simpa using hread.2, hread.1, a, b, c, d, List.reverse_inj.mp ?_⟩
          rw [reverse_append_colorSuffix, hreverse, List.reverse_reverse, List.reverse_reverse,
            ← hmark, List.takeWhile_append_dropWhile, ← hspaces]
        · cases h
      · cases h
    · cases h
  · rintro ⟨hbreak, hcolor, a, b, c, d, rfl⟩
    -- The color ends at the first space or colon, with which the mark starts.
    have hhead : ∀ e ∈ (spaces c ++ ':' :: (spaces b ++ 'g' :: 'b' ::
        (spaces a ++ '{' :: before.reverse))).head?, e = ' ' ∨ e = ':' := by
      intro e he
      cases c with
      | zero => exact .inr (Option.some.inj he).symm
      | succ count => exact .inl (Option.some.inj he).symm
    obtain ⟨htake, hdrop⟩ := span_color hcolor hhead d
    have hmark := dropColorMark?_eq_some_iff.mpr ⟨a, b, c, hdrop⟩
    have hcontains : before.reverse.contains '\n' = false := by simpa using hbreak
    rw [splitColor?, reverse_append_colorSuffix]
    simp only [hmark, htake, List.reverse_reverse, isColorSpec_iff.mpr hcolor, hcontains,
      Bool.not_false, Bool.and_self, if_true]

/-- The color at the end of a content is a part of it. -/
theorem subset_of_splitColor? {content before color : Text}
    (h : splitColor? content = some (before, color)) : color ⊆ content := by
  obtain ⟨-, -, a, b, c, d, rfl⟩ := splitColor?_eq_some_iff.mp h
  intro e he
  simp [colorSuffix, he]

/-- In a content without line breaks, what is taken off its end is the color that it ends in. -/
theorem endsInColor_iff {content before color : Text} (h : '\n' ∉ content) :
    EndsInColor content before color ↔ splitColor? content = some (before, color) := by
  rw [splitColor?_eq_some_iff]
  refine ⟨fun hends => ⟨fun hmem => h ?_, hends⟩, And.right⟩
  obtain ⟨-, a, b, c, d, rfl⟩ := hends
  exact List.mem_append_left _ hmem

/-! ## The parts of a content -/

/-- The fill of a bracket's content is that of the color at its end. -/
theorem fill_ofText (content : Text) (allowNote : Bool) :
    (ofText content allowNote).fill = (splitColor? content).map fun split => Fill.ofSpec split.2 := by
  unfold ofText
  cases splitColor? content <;> simp only [Option.map] <;> split <;> rfl

/-- The mark at the start of a note. -/
def noteMark : Text := "note:".toList

/-- Whether what is read has the **text and the mark of a part** of a content. -/
structure HasTextOf (read : BracketContent) (allowNote : Bool) (part : Text) : Prop where
  /-- Where notes are allowed, the mark of a note is taken off the trimmed part, and the rest is trimmed
  again. -/
  note : allowNote = true → ∀ rest, Text.trim part = noteMark ++ rest →
    read.text = Text.trim rest ∧ read.isNote = true
  /-- Otherwise the text is the trimmed part. -/
  plain : ¬ (allowNote = true ∧ noteMark <+: Text.trim part) →
    read.text = Text.trim part ∧ read.isNote = false

/-- What is read is given by its part and its fill. -/
theorem HasTextOf.eq {first second : BracketContent} {allowNote : Bool} {part : Text}
    (hfirst : first.HasTextOf allowNote part) (hsecond : second.HasTextOf allowNote part)
    (hfill : first.fill = second.fill) : first = second := by
  have hsame : first.text = second.text ∧ first.isNote = second.isNote := by
    by_cases hmark : allowNote = true ∧ noteMark <+: Text.trim part
    · obtain ⟨hallow, rest, hrest⟩ := hmark
      obtain ⟨htext, hnote⟩ := hfirst.note hallow rest hrest.symm
      obtain ⟨htext', hnote'⟩ := hsecond.note hallow rest hrest.symm
      exact ⟨htext.trans htext'.symm, hnote.trans hnote'.symm⟩
    · obtain ⟨htext, hnote⟩ := hfirst.plain hmark
      obtain ⟨htext', hnote'⟩ := hsecond.plain hmark
      exact ⟨htext.trans htext'.symm, hnote.trans hnote'.symm⟩
  cases first
  cases second
  simp_all

/-- Parts that are the same without the blanks at their ends have the same text. -/
theorem HasTextOf.congr {read : BracketContent} {allowNote : Bool} {part other : Text}
    (h : read.HasTextOf allowNote part) (htrim : Text.trim part = Text.trim other) :
    read.HasTextOf allowNote other :=
  ⟨htrim ▸ h.note, htrim ▸ h.plain⟩

/-- The text that is read is that of the part before the color, or of the whole content if it has none. -/
theorem hasTextOf_ofText (content : Text) (allowNote : Bool) :
    (ofText content allowNote).HasTextOf allowNote
      (((splitColor? content).map Prod.fst).getD content) := by
  have hread (part : Text) (fill : Option Fill) :
      HasTextOf (if allowNote && noteMark.isPrefixOf (Text.trim part) then
        ⟨Text.trim ((Text.trim part).drop noteMark.length), fill, true⟩
        else ⟨Text.trim part, fill, false⟩) allowNote part := by
    constructor
    · intro hallow rest hrest
      have hmark : (allowNote && noteMark.isPrefixOf (Text.trim part)) = true := by
        simp [hallow, hrest]
      rw [if_pos hmark, hrest, List.drop_left]
      exact ⟨rfl, rfl⟩
    · intro hmark
      rw [if_neg (by simpa using hmark)]
      exact ⟨rfl, rfl⟩
  unfold ofText
  cases splitColor? content with
  | none => exact hread content none
  | some split => exact hread split.1 _

theorem getLast?_colorSuffix (a b c d : Nat) (color : Text) :
    (colorSuffix a b c d color).getLast? = some '}' := by
  have hreverse := reverse_append_colorSuffix a b c d [] color
  rw [List.nil_append] at hreverse
  rw [← List.head?_reverse, hreverse, List.head?_cons]

/-- There is no blank at the ends of the form of a color. -/
theorem isTrimmed_colorSuffix (a b c d : Nat) (color : Text) :
    Text.IsTrimmed (colorSuffix a b c d color) where
  head := by
    intro e he
    obtain rfl : '{' = e := Option.some.inj he
    decide
  last := by
    intro e he
    obtain rfl : '}' = e := Option.some.inj ((getLast?_colorSuffix a b c d color).symm.trans he)
    decide

/-- A color that stands in a part of a content stands in the text that is read of it. -/
theorem HasTextOf.colorSuffix_infix {read : BracketContent} {allowNote : Bool} {part : Text}
    (h : read.HasTextOf allowNote part) {a b c d : Nat} {color : Text}
    (hcolor : colorSuffix a b c d color <:+: part) : colorSuffix a b c d color <:+: read.text := by
  have htrimmed := isTrimmed_colorSuffix a b c d color
  have htrim := htrimmed.infix_trim hcolor
  by_cases hmark : allowNote = true ∧ noteMark <+: Text.trim part
  · obtain ⟨hallow, rest, hrest⟩ := hmark
    rw [(h.note hallow rest hrest.symm).1]
    refine htrimmed.infix_trim ?_
    obtain ⟨front, back, heq⟩ := htrim
    rw [← hrest, List.append_assoc] at heq
    -- The mark of a note holds no brace, so the form stands behind it.
    rcases Text.append_eq_append_cons_cases heq.symm with ⟨middle, hnote, -⟩ | ⟨middle, -, hbehind⟩
    · have hbrace : '{' ∈ noteMark := by simp [hnote]
      exact absurd hbrace (by decide)
    · exact ⟨middle, back, by rw [hbehind, List.append_assoc]; rfl⟩
  · rwa [(h.plain hmark).1]

/-- **What the content of a bracket stands for.** It has a fill exactly if it ends in a color. There is one
way at most to take the color off, the fill is that of the color, and the text is what stands before it,
with all the colors in it. A content that does not end in a color is the text. -/
theorem isSome_fill_ofText_iff {content : Text} (h : '\n' ∉ content) (allowNote : Bool) :
    ((ofText content allowNote).fill.isSome = true ↔
      ∃ before color, EndsInColor content before color) ∧
    (∀ before color, EndsInColor content before color →
      (∀ other spec, EndsInColor content other spec → other = before ∧ spec = color) ∧
      (ofText content allowNote).fill = some (Fill.ofSpec color) ∧
      HasTextOf (ofText content allowNote) allowNote before ∧
      ∀ a b c d earlier, colorSuffix a b c d earlier <:+: before →
        colorSuffix a b c d earlier <:+: (ofText content allowNote).text) ∧
    ((∀ before color, ¬ EndsInColor content before color) →
      HasTextOf (ofText content allowNote) allowNote content) := by
  have htext := hasTextOf_ofText content allowNote
  simp only [endsInColor_iff h]
  refine ⟨?_, ?_, ?_⟩
  · rw [fill_ofText, Option.isSome_map, Option.isSome_iff_exists, Prod.exists]
  · intro before color hends
    rw [hends] at htext
    refine ⟨?_, ?_, htext, fun a b c d earlier hearlier => htext.colorSuffix_infix hearlier⟩
    · intro other spec hother
      exact Prod.mk.inj (Option.some.inj (hother.symm.trans hends))
    · rw [fill_ofText, hends]
      rfl
  · intro hnone
    have hsplit : splitColor? content = none :=
      Option.eq_none_iff_forall_ne_some.mpr fun split => hnone split.1 split.2
    rwa [hsplit] at htext

/-- A note with two colors, the last of them with spaces and with letters of both cases. -/
theorem isSome_fill_ofText_iff_note :
    let before := "note: A\x7bbg:red\x7d".toList
    let color := "#00fF00".toList
    let content := before ++ "\x7b bg  :#00fF00 \x7d".toList
    '\n' ∉ content ∧ EndsInColor content before color ∧
      (ofText content true).fill = some (Fill.ofSpec color) ∧
      (ofText content true).text = "A\x7bbg:red\x7d".toList ∧ (ofText content true).isNote = true := by
  intro before color content
  have hbreak : '\n' ∉ content := by decide
  have hends : EndsInColor content before color :=
    ⟨.inr ⟨_, rfl, rfl, List.all_eq_true.mp (by decide)⟩, 1, 2, 0, 1, by decide⟩
  obtain ⟨-, hform, -⟩ := isSome_fill_ofText_iff hbreak true
  obtain ⟨-, hfill, htext, -⟩ := hform before color hends
  obtain ⟨hname, hnote⟩ := htext.note rfl " A\x7bbg:red\x7d".toList (by decide)
  exact ⟨hbreak, hends, hfill, hname.trans (by decide), hnote⟩

/-! ## Blanks at the ends of a content -/

/-- Blanks before a content belong to what stands before its color. -/
theorem splitColor?_blanks_append {lead : Text}
    (hlead : ∀ c ∈ lead, Text.isBlank c = true ∧ c ≠ '\n') (content : Text) :
    splitColor? (lead ++ content) =
      (splitColor? content).map fun split => (lead ++ split.1, split.2) := by
  have hbreak : '\n' ∉ lead := fun hmem => (hlead '\n' hmem).2 rfl
  ext ⟨whole, color⟩
  simp only [Option.map_eq_some_iff, Prod.exists, Prod.mk.injEq, splitColor?_eq_some_iff]
  constructor
  · rintro ⟨hwhole, hcolor, a, b, c, d, heq⟩
    rcases List.append_eq_append_iff.mp heq with ⟨middle, rfl, hcontent⟩ | ⟨middle, rfl, hform⟩
    · exact ⟨middle, color, ⟨fun hmem => hwhole (List.mem_append_right _ hmem), hcolor, a, b, c, d,
        hcontent⟩, rfl, rfl⟩
    · -- The form of a color does not start with a blank.
      cases middle with
      | nil =>
        exact ⟨[], color, ⟨List.not_mem_nil, hcolor, a, b, c, d, by simpa using hform.symm⟩,
          by simp, rfl⟩
      | cons e middle =>
        obtain ⟨rfl, -⟩ := List.cons.inj hform
        exact absurd (hlead '{' (by simp)).1 (by decide)
  · rintro ⟨before, color, ⟨hbefore, hcolor, a, b, c, d, rfl⟩, rfl, rfl⟩
    refine ⟨?_, hcolor, a, b, c, d, (List.append_assoc _ _ _).symm⟩
    rw [List.mem_append, not_or]
    exact ⟨hbreak, hbefore⟩

/-- A blank behind a content hides its color. -/
theorem splitColor?_append_blanks {trail : Text} (hne : trail ≠ [])
    (htrail : ∀ c ∈ trail, Text.isBlank c = true) (content : Text) :
    splitColor? (content ++ trail) = none := by
  rw [Option.eq_none_iff_forall_ne_some]
  rintro ⟨before, color⟩ hsplit
  obtain ⟨-, -, a, b, c, d, heq⟩ := splitColor?_eq_some_iff.mp hsplit
  obtain ⟨e, he⟩ := Option.ne_none_iff_exists'.mp (mt List.getLast?_eq_none_iff.mp hne)
  have hlast := congrArg List.getLast? heq
  rw [List.getLast?_append, List.getLast?_append, he, getLast?_colorSuffix, Option.some_or,
    Option.some_or] at hlast
  obtain rfl := Option.some.inj hlast
  exact absurd (htrail '}' (List.mem_of_getLast? he)) (by decide)

/-- Blanks before a content make no difference. -/
theorem ofText_blanks_append {lead : Text} (hlead : ∀ c ∈ lead, Text.isBlank c = true ∧ c ≠ '\n')
    (content : Text) (allowNote : Bool) : ofText (lead ++ content) allowNote = ofText content allowNote := by
  have htrim (text : Text) : Text.trim (lead ++ text) = Text.trim text := by
    have hblanks := Text.trim_blanks_append (fun c hc => (hlead c hc).1) text (List.forall_mem_nil _)
    rwa [List.append_nil] at hblanks
  have hlonger := hasTextOf_ofText (lead ++ content) allowNote
  refine (hlonger.congr ?_).eq (hasTextOf_ofText content allowNote) ?_
  · rw [splitColor?_blanks_append hlead]
    cases splitColor? content with
    | none => exact htrim content
    | some split => exact htrim split.1
  · rw [fill_ofText, fill_ofText, splitColor?_blanks_append hlead, Option.map_map]
    rfl

/-- With blanks behind it, a content is its text. -/
theorem hasTextOf_ofText_append_blanks {trail : Text} (hne : trail ≠ [])
    (htrail : ∀ c ∈ trail, Text.isBlank c = true) (content : Text) (allowNote : Bool) :
    (ofText (content ++ trail) allowNote).fill = none ∧
      HasTextOf (ofText (content ++ trail) allowNote) allowNote content := by
  have hsplit := splitColor?_append_blanks hne htrail content
  have htext := hasTextOf_ofText (content ++ trail) allowNote
  rw [hsplit] at htext
  exact ⟨by rw [fill_ofText, hsplit, Option.map_none],
    htext.congr (Text.trim_append_blanks htrail)⟩

/-- **Blanks at the ends of a content** make no difference before it. Behind it they make one exactly if the
content ends in a color: there is no fill then, and the color stays in the text. -/
theorem ofText_blanks_iff {lead trail : Text} (hlead : ∀ c ∈ lead, Text.isBlank c = true ∧ c ≠ '\n')
    (htrail : ∀ c ∈ trail, Text.isBlank c = true) (content : Text) (allowNote : Bool) :
    let inside := lead ++ (content ++ trail)
    (ofText inside allowNote = ofText content allowNote ↔
      trail = [] ∨ ∀ before color, '\n' ∉ before → ¬ EndsInColor content before color) ∧
    (trail ≠ [] → (ofText inside allowNote).fill = none ∧
      HasTextOf (ofText inside allowNote) allowNote content) := by
  intro inside
  rw [show ofText inside allowNote = ofText (content ++ trail) allowNote from
    ofText_blanks_append hlead _ allowNote]
  by_cases hne : trail = []
  · subst hne
    simp
  obtain ⟨hfill, htext⟩ := hasTextOf_ofText_append_blanks hne htrail content allowNote
  refine ⟨⟨?_, ?_⟩, fun _ => ⟨hfill, htext⟩⟩
  · -- The same fill would have to be found in the content, but there is none behind blanks.
    intro hsame
    right
    intro before color hbreak hends
    have hsplit := splitColor?_eq_some_iff.mpr ⟨hbreak, hends⟩
    rw [hsame, fill_ofText, hsplit] at hfill
    cases hfill
  · rintro (hnil | hnone)
    · exact absurd hnil hne
    · -- A content without color is its text, with blanks behind it or not.
      have hsplit : splitColor? content = none := by
        rw [Option.eq_none_iff_forall_ne_some]
        rintro ⟨before, color⟩ hsplit
        obtain ⟨hbreak, hends⟩ := splitColor?_eq_some_iff.mp hsplit
        exact hnone before color hbreak hends
      have hcontent := hasTextOf_ofText content allowNote
      rw [hsplit] at hcontent
      refine htext.eq hcontent ?_
      rw [hfill, fill_ofText, hsplit, Option.map_none]

/-- Two blanks before a note that ends in a color, and a wide one behind it. -/
theorem ofText_blanks_iff_note :
    let lead := "\t ".toList
    let trail := ['\u3000']
    let content := "note: a\x7bbg:red\x7d".toList
    let inside := lead ++ (content ++ trail)
    (∀ c ∈ lead, Text.isBlank c = true ∧ c ≠ '\n') ∧ (∀ c ∈ trail, Text.isBlank c = true) ∧
      ofText inside true ≠ ofText content true ∧ (ofText inside true).fill = none ∧
      (ofText inside true).text = "a\x7bbg:red\x7d".toList ∧ (ofText inside true).isNote = true := by
  intro lead trail content inside
  have hlead : ∀ c ∈ lead, Text.isBlank c = true ∧ c ≠ '\n' :=
    List.all_iff_forall_prop.mp (by decide)
  have htrail : ∀ c ∈ trail, Text.isBlank c = true := List.all_eq_true.mp (by decide)
  have hends : EndsInColor content "note: a".toList "red".toList :=
    ⟨.inl ⟨"red".toList, [], rfl, by decide, List.all_eq_true.mp (by decide), by simp⟩,
      0, 0, 0, 0, by decide⟩
  obtain ⟨hsame, hbehind⟩ := ofText_blanks_iff hlead htrail content true
  obtain ⟨hfill, htext⟩ := hbehind (by decide)
  obtain ⟨hname, hnote⟩ := htext.note rfl " a\x7bbg:red\x7d".toList (by decide)
  refine ⟨hlead, htrail, ?_, hfill, hname.trans (by decide), hnote⟩
  intro heq
  rcases hsame.mp heq with hnil | hnone
  · exact absurd hnil (by decide)
  · exact hnone _ _ (by decide) hends

/-- A blank behind a color keeps it from being found, so blanks at the ends of a content do make a
difference. -/
theorem not_ofText_blanks : ¬ ∀ (content lead trail : Text) (allowNote : Bool),
    (∀ c ∈ lead ++ trail, Text.isBlank c = true ∧ c ≠ '\n') →
      ofText (lead ++ (content ++ trail)) allowNote = ofText content allowNote := by
  intro h
  have hblank : ∀ c ∈ [' '], Text.isBlank c = true ∧ c ≠ '\n' :=
    List.all_iff_forall_prop.mp (by decide)
  have hsame := congrArg BracketContent.text (h "A\x7bbg:red\x7d".toList [] [' '] true hblank)
  exact absurd hsame (by decide)

end BracketContent

end UmlSketch
