import UmlSketch.Proofs.Token.Items

/-! # Messages that are written
A message is written as a text between a marker and an arrow with another marker. Text and markers are
read back, since they are looked for at the ends of the token. The style is not, since arrows are
looked for in the whole token: a message is sent as the strongest of its own arrow and of those in its
text (`Sequences.parseLine_write`). -/

namespace UmlSketch.Sequences

/-! ## Occurrences -/

theorem contains_iff_infix {pattern text : Text} : contains pattern text = true ↔ pattern <:+: text := by
  rw [contains_iff]
  constructor
  · rintro ⟨before, after, rfl⟩
    exact ⟨before, after, List.append_assoc _ _ _⟩
  · rintro ⟨before, after, rfl⟩
    exact ⟨before, after, List.append_assoc _ _ _⟩

/-- Two characters that are next to each other in two texts are so in one of them, if they are not where
the texts meet. -/
theorem contains_pair_append {a b : Char} {first second : Text}
    (h : first.getLast? ≠ some a ∨ second.head? ≠ some b) :
    contains [a, b] (first ++ second) = (contains [a, b] first || contains [a, b] second) := by
  rw [Bool.eq_iff_iff, Bool.or_eq_true, contains_iff_infix, contains_iff_infix, contains_iff_infix,
    List.infix_append_iff]
  constructor
  · rintro (hfirst | hsecond | ⟨front, back, hpair, ⟨before, hbefore⟩, ⟨after, hafter⟩⟩)
    · exact Or.inl hfirst
    · exact Or.inr hsecond
    · match front with
      | [] => exact Or.inr ⟨[], after, by rw [hpair]; exact hafter⟩
      | [c] =>
        obtain ⟨rfl, rfl⟩ := List.cons.inj hpair
        subst hbefore hafter
        simp at h
      | c :: d :: rest =>
        obtain ⟨rfl, htail⟩ := List.cons.inj hpair
        obtain ⟨rfl, hrest⟩ := List.cons.inj htail
        obtain ⟨rfl, rfl⟩ := List.append_eq_nil_iff.mp hrest.symm
        exact Or.inl ⟨before, [], by rw [List.append_nil]; exact hbefore⟩
  · rintro (hfirst | hsecond)
    · exact Or.inl hfirst
    · exact Or.inr (Or.inl hsecond)

/-! ## Writing -/

/-- The marker of what an end of a message does, nothing if it does nothing. -/
def markerOf : Option Activation → Text
  | none => []
  | some .opens => ['(']
  | some .closes => [')']

/-- The arrow of a style. -/
def arrowOf : MessageStyle → Text
  | .solid => ['>']
  | .dashed => ['.', '>']
  | .async => ['>', '>']

/-- A message **written** with a text, an arrow and markers at its ends. -/
def write (source : Option Activation) (text : Text) (style : MessageStyle)
    (target : Option Activation) : Text :=
  markerOf source ++ (text ++ (arrowOf style ++ markerOf target))

/-- Whether a text is one **of a message**: no bracket opens in it, nothing in it is escaped, and its ends
cannot be taken for a marker or for a part of the arrow. -/
structure IsOfMessage (text : Text) : Prop where
  /-- There are no blanks at its ends. -/
  trim_eq : Text.trim text = text
  /-- It has no bracket. -/
  bracket : '[' ∉ text
  /-- It has no escape. -/
  backslash : '\\' ∉ text
  /-- It does not begin with a marker. -/
  head : text.head? ≠ some '(' ∧ text.head? ≠ some ')'
  /-- It does not end with a part of an arrow. -/
  last : text.getLast? ≠ some '.' ∧ text.getLast? ≠ some '>'

/-- The stronger one of two styles. -/
def stronger : MessageStyle → MessageStyle → MessageStyle
  | .async, _ | _, .async => .async
  | .dashed, _ | _, .dashed => .dashed
  | .solid, .solid => .solid

/-! ## Reading what is written -/

section Reading

variable {source target : Option Activation} {text : Text} {style : MessageStyle}

/-- No arrow begins in the text and ends behind it, so that those in a message are its own and those in its
text. -/
theorem contains_write (h : IsOfMessage text) {c : Char} (hc : c = '.' ∨ c = '>') :
    contains [c, '>'] (write source text style target) =
      (contains [c, '>'] text || contains [c, '>'] (arrowOf style)) := by
  have hlast : text.getLast? ≠ some c := by
    rcases hc with rfl | rfl
    · exact h.last.1
    · exact h.last.2
  have hmarker : ∀ activation, contains [c, '>'] (markerOf activation) = false ∧
      (markerOf activation).getLast? ≠ some c ∧ (markerOf activation).head? ≠ some '>' := by
    intro activation
    rcases hc with rfl | rfl <;> rcases activation with _ | _ | _ <;> decide
  rw [write, contains_pair_append (Or.inl (hmarker source).2.1), (hmarker source).1,
    contains_pair_append (Or.inl hlast), contains_pair_append (Or.inr (hmarker target).2.2),
    (hmarker target).1, Bool.false_or, Bool.or_false]

/-- A message is sent as the strongest of the arrows in it. -/
theorem styleOf_write (h : IsOfMessage text) :
    styleOf (write source text style target) = stronger style (styleOf text) := by
  rw [styleOf, styleOf, contains_write h (Or.inr rfl), contains_write h (Or.inl rfl)]
  cases contains ['>', '>'] text <;> cases contains ['.', '>'] text <;> cases style <;> rfl

/-- The marker of the sender is read back. -/
theorem head?_write (h : IsOfMessage text) :
    (write source text style target).head?.bind Activation.ofMarker? = source := by
  match source with
  | some .opens => rfl
  | some .closes => rfl
  | none =>
    cases text with
    | nil => cases style <;> rfl
    | cons c rest =>
      obtain ⟨hopens, hcloses⟩ := h.head
      rw [List.head?_cons, ne_eq, Option.some_inj] at hopens hcloses
      change Activation.ofMarker? c = none
      rw [Activation.ofMarker?, if_neg hopens, if_neg hcloses]

/-- The text stands between the marker of the sender and the arrow. -/
theorem bodyOf_write (h : IsOfMessage text) :
    bodyOf (write source text style target) = text ++ (arrowOf style ++ markerOf target) := by
  rw [bodyOf, head?_write h]
  rcases source with _ | _ | _ <;> rfl

/-- The text and the marker of the receiver are read back. -/
theorem splitArrow?_write (h : IsOfMessage text) :
    splitArrow? (text ++ (arrowOf style ++ markerOf target)) = some (text, target) := by
  refine splitArrow?_eq_some_iff.mpr ⟨arrowOf style, markerOf target, rfl, ?_, ?_⟩
  · cases style with
    | solid => exact Or.inr (Or.inr ⟨rfl, h.last⟩)
    | dashed => exact Or.inl rfl
    | async => exact Or.inr (Or.inl rfl)
  · rcases target with _ | _ | _
    · exact Or.inl ⟨rfl, rfl⟩
    · exact Or.inr ⟨'(', .opens, rfl, rfl, rfl⟩
    · exact Or.inr ⟨')', .closes, rfl, rfl, rfl⟩

/-- No bracket opens in a message, and nothing is escaped in it. -/
theorem ne_of_mem_write (h : IsOfMessage text) :
    ∀ c ∈ write source text style target, c ≠ '[' ∧ c ≠ '\\' := by
  have hmarker : ∀ activation, ∀ c ∈ markerOf activation, c ≠ '[' ∧ c ≠ '\\' := by
    rintro (_ | _ | _) <;> simp [markerOf]
  have harrow : ∀ c ∈ arrowOf style, c ≠ '[' ∧ c ≠ '\\' := by
    cases style <;> simp [arrowOf]
  have htext : ∀ c ∈ text, c ≠ '[' ∧ c ≠ '\\' := fun c hc =>
    ⟨fun heq => h.bracket (heq ▸ hc), fun heq => h.backslash (heq ▸ hc)⟩
  simp only [write, List.forall_mem_append]
  exact ⟨hmarker source, htext, harrow, hmarker target⟩

/-- A message has no blanks at its ends. -/
theorem isTrimmed_write (h : IsOfMessage text) : (write source text style target).IsTrimmed := by
  have hmarker (marker : Option Activation) : (markerOf marker).IsTrimmed := by
    rcases marker with _ | _ | _ <;> exact .of_trim_eq (by decide)
  have harrow : (arrowOf style).IsTrimmed := by cases style <;> exact .of_trim_eq (by decide)
  have htext : text.IsTrimmed := .of_trim_eq h.trim_eq
  exact (hmarker source).append (htext.append (harrow.append (hmarker target)))

/-- **A message that is written is read back**, but for its style. -/
theorem readToken_write (h : IsOfMessage text) {token : Token}
    (htoken : token.text = write source text style target) :
    readToken token =
      .ok (.signal ⟨text, stronger style (styleOf text), source, target, token.span⟩) := by
  have hsignal : signal token =
      .ok (.signal ⟨text, stronger style (styleOf text), source, target, token.span⟩) := by
    refine signal_eq_ok_iff.mpr ⟨text, target, ?_, ?_⟩
    · rw [htoken, bodyOf_write h, splitArrow?_write h]
    · rw [htoken, styleOf_write h, head?_write h, h.trim_eq]
  have hpoint : token.text.contains '>' = true :=
    List.contains_iff_mem.mpr (point_mem_of_signal hsignal)
  have henclosed : token.enclosed? '[' ']' = none :=
    Token.enclosed?_eq_none_of_not_mem ']' fun hmem =>
      (ne_of_mem_write h '[' (htoken ▸ hmem)).1 rfl
  rw [readToken, henclosed]
  simp only [hpoint, if_true, hsignal]

/-- A message in a line of its own is one token. -/
theorem tokenize_write (h : IsOfMessage text) (offset : Nat) :
    tokenize (Kind.openers .sequence) (write source text style target) offset =
      [⟨write source text style target,
        .ofLength offset (Text.byteLength (write source text style target))⟩] := by
  refine Token.tokenize_of_isSealed (Kind.areOpening_openers .sequence) ?_ (isTrimmed_write h)
    (Text.isSealed_of_forall fun c hc => ?_) offset
  · have hpoint : '>' ∈ arrowOf style := by cases style <;> decide
    have hmem : '>' ∈ write source text style target := by simp [write, hpoint]
    exact List.ne_nil_of_mem hmem
  · obtain ⟨hbracket, hbackslash⟩ := ne_of_mem_write h c hc
    exact ⟨hbackslash, by simpa [Kind.openers] using hbracket⟩

/-- The arrow of a message is the strongest one in it if the text has none that is stronger. -/
theorem stronger_styleOf_eq_iff :
    stronger style (styleOf text) = style ↔
      (contains ['>', '>'] text = true → style = .async) ∧
        (contains ['.', '>'] text = true → style ≠ .solid) := by
  rw [styleOf]
  cases contains ['>', '>'] text <;> cases contains ['.', '>'] text <;> cases style <;> decide

end Reading

/-- **A message that is written is read back**, as a token and in a line of its own, with its text and
its markers. It is sent as the strongest of the arrows in it, which is its own one exactly if its text
has none that is stronger. -/
theorem parseLine_write {text : Text} (h : IsOfMessage text) (source : Option Activation)
    (style : MessageStyle) (target : Option Activation) :
    (∀ token : Token, token.text = write source text style target →
        readToken token =
          .ok (.signal ⟨text, stronger style (styleOf text), source, target, token.span⟩)) ∧
      (∀ offset, Kind.parseLine .sequence ⟨write source text style target, offset⟩ =
        .ok [.signal ⟨text, stronger style (styleOf text), source, target,
          .ofLength offset (Text.byteLength (write source text style target))⟩]) ∧
      (stronger style (styleOf text) = style ↔
        (contains ['>', '>'] text = true → style = .async) ∧
          (contains ['.', '>'] text = true → style ≠ .solid)) := by
  refine ⟨fun token htoken => readToken_write h htoken, fun offset => ?_, stronger_styleOf_eq_iff⟩
  rw [Kind.parseLine, tokenize_write h, List.mapM_cons, List.mapM_nil, Kind.readToken,
    readToken_write h rfl]
  rfl

/-- An answer that gives the focus back at both ends, with the characters of its arrow apart in its
text. -/
theorem parseLine_write_answer :
    let text := "a > b. So be it".toList
    IsOfMessage text ∧ write (some .closes) text .dashed (some .closes) = ")a > b. So be it.>)".toList ∧
      stronger .dashed (styleOf text) = .dashed ∧
      (∀ token : Token, token.text = write (some .closes) text .dashed (some .closes) →
          readToken token =
            .ok (.signal ⟨text, stronger .dashed (styleOf text), some .closes, some .closes,
              token.span⟩)) ∧
        (∀ offset, Kind.parseLine .sequence ⟨write (some .closes) text .dashed (some .closes), offset⟩ =
          .ok [.signal ⟨text, stronger .dashed (styleOf text), some .closes, some .closes,
            .ofLength offset (Text.byteLength (write (some .closes) text .dashed (some .closes)))⟩]) ∧
        (stronger .dashed (styleOf text) = .dashed ↔
          (contains ['>', '>'] text = true → MessageStyle.dashed = .async) ∧
            (contains ['.', '>'] text = true → MessageStyle.dashed ≠ .solid)) := by
  intro text
  have htext : IsOfMessage text := ⟨by decide, by decide, by decide, by decide, by decide⟩
  exact ⟨htext, by decide, by decide, parseLine_write htext (some .closes) .dashed (some .closes)⟩

/-- Two calls whose texts hold a stronger arrow: the first is read as one that is not waited for, the
second as an answer. -/
theorem readToken_write_ne :
    (IsOfMessage "a>>b".toList ∧ write none "a>>b".toList .solid none = "a>>b>".toList ∧
      readToken ⟨"a>>b>".toList, .ofLength 0 5⟩ =
        .ok (.signal ⟨"a>>b".toList, .async, none, none, .ofLength 0 5⟩)) ∧
      IsOfMessage "a.>b".toList ∧ write none "a.>b".toList .solid none = "a.>b>".toList ∧
        readToken ⟨"a.>b>".toList, .ofLength 0 5⟩ =
          .ok (.signal ⟨"a.>b".toList, .dashed, none, none, .ofLength 0 5⟩) := by
  refine ⟨⟨⟨by decide, by decide, by decide, by decide, by decide⟩, by decide, by decide⟩,
    ⟨by decide, by decide, by decide, by decide, by decide⟩, by decide, by decide⟩

end UmlSketch.Sequences
