import Mathlib.Data.Bool.AllAny
import UmlSketch.Proofs.Text.Splitting
import UmlSketch.Proofs.Token.Items

/-! # Associations that are written
An association is written as two sides with a separator between them, each with a label inside and an end
marker outside. The separator `-` is a part of the separator `-.-`, and markers are parts of others, so
what is read depends on what is looked for first; still every association is read back, as long as its
labels hold no character that markers and separators are made of (`Classes.parseLine_writeAssociation`). -/

namespace UmlSketch

/-! ## Texts in which a separator is looked for -/

namespace Text

/-- A text in which a separator does not occur is not split. -/
theorem splitUnescapedFrom_eq_singleton {separator text : Text} (hseparator : separator ≠ [])
    (h : ¬ separator <:+: text) (escaped : Bool) :
    splitUnescapedFrom separator escaped 0 0 text = [text] := by
  induction text using scan_induction hseparator generalizing escaped with
  | nil => exact splitUnescapedFrom_nil hseparator escaped
  | occurrence rest ih => exact absurd (List.prefix_append separator rest).isInfix h
  | char c rest hnone ih =>
    have hrest : ¬ separator <:+: rest := fun hoccurs => h (List.infix_cons hoccurs)
    rw [splitUnescapedFrom_char hnone, ih hrest, consFirst_cons]

/-- What stands before the place where a separator can begin belongs to the first part. -/
theorem splitUnescapedFrom_append_of_not_mem {c : Char} {behind front : Text} (h : c ∉ front)
    (escaped : Bool) (rest : Text) :
    splitUnescapedFrom (c :: behind) escaped 0 0 (front ++ rest) =
      front.foldr consFirst
        (splitUnescapedFrom (c :: behind) (front.foldl escapesNext escaped) 0 0 rest) := by
  -- Whether the rest starts escaped depends on what stands before it.
  induction front generalizing escaped with
  | nil => rfl
  | cons d front ih =>
    rw [List.mem_cons, not_or] at h
    have hnone : ¬ (c :: behind) <+: d :: (front ++ rest) := by
      intro hstart
      exact h.1 (List.cons_prefix_cons.mp hstart).1
    rw [List.cons_append, splitUnescapedFrom_char hnone, ih h.2, List.foldr_cons, List.foldl_cons]

/-- A text is split at the first separator, if nothing before it can be taken for the start of one. -/
theorem splitUnescaped_append_separator {c : Char} {behind front : Text} (hsign : IsSign (c :: behind))
    (hfront : c ∉ front) (hbackslash : '\\' ∉ front) (rest : Text) :
    splitUnescaped (c :: behind) (front ++ (c :: behind ++ rest)) =
      front :: splitUnescaped (c :: behind) rest := by
  have hstate := endsEscaping_of_not_mem hbackslash
  rw [endsEscaping_eq_foldl] at hstate
  rw [splitUnescaped, splitUnescapedFrom_append_of_not_mem hfront, hstate,
    splitUnescapedFrom_separator_false hsign.ne_nil, foldl_escapesNext_sign hsign, foldr_consFirst,
    List.append_nil, splitUnescaped]

/-- A start is looked for in the first part of a text, if the second has none of its characters. -/
theorem dropStart?_append {pattern text : Text} (h : ∀ c ∈ pattern, c ∉ text) (front : Text) :
    dropStart? pattern (front ++ text) = (dropStart? pattern front).map (· ++ text) := by
  ext rest
  rw [dropStart?_eq_some_iff, Option.map_eq_some_iff]
  constructor
  · intro heq
    rcases List.append_eq_append_iff.mp heq with ⟨middle, rfl, htext⟩ | ⟨middle, rfl, rfl⟩
    · -- The part of the pattern that is left begins the second part, so nothing is left of it.
      cases middle with
      | nil => exact ⟨[], dropStart?_eq_some_iff.mpr (by simp), by simpa using htext⟩
      | cons c middle => exact absurd (htext ▸ List.mem_cons_self) (h c (by simp))
    · exact ⟨middle, dropStart?_eq_some_iff.mpr rfl, rfl⟩
  · rintro ⟨middle, hfront, rfl⟩
    rw [dropStart?_eq_some hfront, List.append_assoc]

/-- An end is looked for in the second part of a text, if the first has none of its characters. -/
theorem dropEnd?_append {pattern text : Text} (h : ∀ c ∈ pattern, c ∉ text) (back : Text) :
    dropEnd? pattern (text ++ back) = (dropEnd? pattern back).map (text ++ ·) := by
  ext rest
  rw [dropEnd?_eq_some_iff, Option.map_eq_some_iff]
  constructor
  · intro heq
    rcases List.append_eq_append_iff.mp heq with ⟨middle, rfl, rfl⟩ | ⟨middle, rfl, rfl⟩
    · exact ⟨middle, dropEnd?_eq_some_iff.mpr rfl, rfl⟩
    · -- The part of the pattern that is left ends the first part, so nothing is left of it.
      cases middle with
      | nil => exact ⟨[], dropEnd?_eq_some_iff.mpr rfl, by simp⟩
      | cons c middle => exact absurd (by simp) (h c (by simp))
  · rintro ⟨middle, hback, rfl⟩
    rw [dropEnd?_eq_some hback, List.append_assoc]

end Text

namespace Classes

/-! ## Writing -/

/-- The **markers at the ends** of an association. -/
inductive EndMarker
  /-- No marker. -/
  | none
  /-- The marker `<>`. -/
  | angles
  /-- The marker `+`. -/
  | plus
  /-- The marker `++`. -/
  | doublePlus
  /-- The marker that points to the class: `<` at the left end and `>` at the right end. -/
  | point
  /-- The marker `^`. -/
  | caret
  deriving DecidableEq, Repr

namespace EndMarker

/-- A marker as it is written at the left end. -/
def atTail : EndMarker → Text
  | .none => []
  | .angles => ['<', '>']
  | .plus => ['+']
  | .doublePlus => ['+', '+']
  | .point => ['<']
  | .caret => ['^']

/-- A marker as it is written at the right end. -/
def atHead : EndMarker → Text
  | .point => ['>']
  | marker => marker.atTail

/-- The arrow that a marker stands for. -/
def arrow : EndMarker → ArrowKind
  | .none => .none
  | .angles | .plus => .hollowDiamond
  | .doublePlus => .diamond
  | .point => .vee
  | .caret => .empty

end EndMarker

/-- The separator of a solid or dashed association. -/
def separator : LineStyle → Text
  | .solid => ['-']
  | .dashed => ['-', '.', '-']

/-- The characters with a meaning in an association, outside of its labels: those of markers and
separators, the one that opens a bracket and the one that escapes. -/
def reserved : Text := ['<', '>', '+', '^', '-', '[', '\\']

/-- Whether a text is the **label at an end** of an association, or empty if there is none: it has no blanks
at its ends and no reserved characters. -/
structure IsEndLabel (label : Text) : Prop where
  /-- There are no blanks at its ends. -/
  trim_eq : Text.trim label = label
  /-- It has no reserved characters. -/
  not_reserved : ∀ c ∈ reserved, c ∉ label

/-- An association **written** with its markers, labels and separator, from left to right. -/
def writeAssociation (tail : EndMarker) (tailLabel : Text) (line : LineStyle) (headLabel : Text)
    (head : EndMarker) : Text :=
  tail.atTail ++ tailLabel ++ (separator line ++ (headLabel ++ head.atHead))

/-! ## Reading what is written -/

section Reading

variable {label tailLabel headLabel : Text} {line : LineStyle}

/-- A marker has only reserved characters, and so a label has none of a marker. -/
theorem IsEndLabel.not_mem (h : IsEndLabel label) (pattern : Text) (hpattern : pattern ⊆ reserved) :
    ∀ c ∈ pattern, c ∉ label := fun c hc => h.not_reserved c (hpattern hc)

/-- The marker and the label at a left end are read back. -/
theorem leftEnd_append (h : IsEndLabel label) (marker : EndMarker) :
    leftEnd (marker.atTail ++ label) = (marker.arrow, label) := by
  have hstart (pattern : Text) (hpattern : pattern ⊆ reserved) :=
    Text.dropStart?_append (h.not_mem pattern hpattern) marker.atTail
  -- A point at the end of the side could only belong to a marker that is looked for before it.
  have hend : '>' ∉ marker.atTail → Text.dropEnd? ['>'] (marker.atTail ++ label) = none := by
    intro htail
    rw [Option.eq_none_iff_forall_ne_some]
    intro rest hrest
    have hmem : '>' ∈ marker.atTail ++ label := by simp [Text.dropEnd?_eq_some hrest]
    exact (List.mem_append.mp hmem).elim htail (h.not_reserved '>' (by decide))
  -- What is left to be read is the marker alone.
  rw [leftEnd, hstart ['<', '>'] (by decide), hstart ['+', '+'] (by decide), hstart ['+'] (by decide),
    hstart ['<'] (by decide), hstart ['^'] (by decide)]
  cases marker with
  | none | caret =>
    rw [hend (by decide)]
    rfl
  | angles | plus | doublePlus | point => rfl

/-- The marker and the label at a right end are read back. -/
theorem rightEnd_append (h : IsEndLabel label) (marker : EndMarker) :
    rightEnd (label ++ marker.atHead) = (marker.arrow, label) := by
  have hend (pattern : Text) (hpattern : pattern ⊆ reserved) :=
    Text.dropEnd?_append (h.not_mem pattern hpattern) marker.atHead
  rw [rightEnd, hend ['<', '>'] (by decide), hend ['+', '+'] (by decide), hend ['+'] (by decide),
    hend ['>'] (by decide), hend ['^'] (by decide)]
  cases marker with
  | none =>
    -- A side without marker is read like a left end.
    have hstart : Text.dropStart? ['>'] label = none :=
      Text.dropStart?_append (h.not_mem ['>'] (by decide)) []
    have hleft := leftEnd_append h .none
    rw [show EndMarker.none.atHead = [] from rfl, List.append_nil, hstart]
    exact hleft
  | angles | plus | doublePlus | point | caret => exact congrArg _ (List.append_nil label)

/-- The label at an end is kept, unless it is empty. -/
theorem nonEmptyLabel?_of_isEndLabel (h : IsEndLabel label) :
    nonEmptyLabel? label = if label = [] then none else some label := by
  rw [nonEmptyLabel?, h.trim_eq]

/-- The marker and the label at an end have no separator, no bracket and no escape. -/
theorem IsEndLabel.not_mem_side (h : IsEndLabel label) (marker : EndMarker) :
    ∀ c ∈ ['-', '[', '\\'], c ∉ marker.atTail ++ label ∧ c ∉ label ++ marker.atHead := by
  have hmarker : ∀ c ∈ ['-', '[', '\\'], c ∉ marker.atTail ∧ c ∉ marker.atHead := by
    cases marker <;> exact List.all_iff_forall_prop.mp (by decide)
  intro c hc
  have hlabel : c ∉ label := h.not_mem ['-', '[', '\\'] (by decide) c hc
  simp [hlabel, hmarker c hc]

/-- The separator of an association is found, and the association is split there. -/
theorem splitUnescaped_writeAssociation (htail : IsEndLabel tailLabel) (hhead : IsEndLabel headLabel)
    (tail head : EndMarker) (line : LineStyle) :
    Text.splitUnescaped (separator line) (writeAssociation tail tailLabel line headLabel head) =
      [tail.atTail ++ tailLabel, headLabel ++ head.atHead] := by
  have hleft := htail.not_mem_side tail
  have hright : '-' ∉ headLabel ++ head.atHead := (hhead.not_mem_side head '-' (by decide)).2
  have hdash := (hleft '-' (by decide)).1
  have hbackslash := (hleft '\\' (by decide)).1
  have hnone {pattern : Text} (hpattern : '-' ∈ pattern) : ¬ pattern <:+: headLabel ++ head.atHead :=
    fun hoccurs => hright (hoccurs.subset hpattern)
  rw [writeAssociation]
  cases line with
  | solid =>
    rw [separator, Text.splitUnescaped_append_separator (by decide) hdash hbackslash,
      Text.splitUnescaped, Text.splitUnescapedFrom_eq_singleton (by decide) (hnone (by decide))]
  | dashed =>
    rw [separator, Text.splitUnescaped_append_separator (by decide) hdash hbackslash,
      Text.splitUnescaped, Text.splitUnescapedFrom_eq_singleton (by decide) (hnone (by decide))]

/-- The separator that is looked for first is found in dashed associations only. -/
theorem containsUnescaped_writeAssociation (htail : IsEndLabel tailLabel)
    (hhead : IsEndLabel headLabel) (tail head : EndMarker) (line : LineStyle) :
    Text.containsUnescaped ['-', '.', '-'] (writeAssociation tail tailLabel line headLabel head) =
      decide (line = .dashed) := by
  cases line with
  | solid =>
    have hleft := List.count_eq_zero_of_not_mem (htail.not_mem_side tail '-' (by decide)).1
    have hright := List.count_eq_zero_of_not_mem (hhead.not_mem_side head '-' (by decide)).2
    -- There is one dash, and the separator takes two.
    have hnone : ¬ ['-', '.', '-'] <:+: writeAssociation tail tailLabel .solid headLabel head := by
      intro hoccurs
      have hcount := hoccurs.sublist.count_le '-'
      have htwo : List.count '-' ['-', '.', '-'] = 2 := by decide
      have hone : List.count '-' (separator .solid) = 1 := by decide
      simp only [List.count_append] at hleft hright
      simp only [writeAssociation, List.count_append] at hcount
      omega
    rw [Text.containsUnescaped, Text.splitUnescaped,
      Text.splitUnescapedFrom_eq_singleton (by decide) hnone]
    rfl
  | dashed =>
    have hsplit := splitUnescaped_writeAssociation htail hhead tail head .dashed
    rw [separator] at hsplit
    rw [Text.containsUnescaped, hsplit]
    rfl

/-- The separator of an association is the one that it is split at. -/
theorem separatorOf_writeAssociation (htail : IsEndLabel tailLabel) (hhead : IsEndLabel headLabel)
    (tail head : EndMarker) (line : LineStyle) :
    separatorOf (writeAssociation tail tailLabel line headLabel head) = separator line := by
  rw [separatorOf, containsUnescaped_writeAssociation htail hhead]
  cases line <;> rfl

/-- An association has a dash that is not escaped, so it is read as one. -/
theorem containsUnescaped_dash_writeAssociation (htail : IsEndLabel tailLabel) (tail head : EndMarker)
    (line : LineStyle) (headLabel : Text) :
    Text.containsUnescaped ['-'] (writeAssociation tail tailLabel line headLabel head) = true := by
  have hleft := htail.not_mem_side tail
  obtain ⟨behind, hbehind⟩ : ∃ behind, separator line = ['-'] ++ behind := by
    cases line
    · exact ⟨[], rfl⟩
    · exact ⟨['.', '-'], rfl⟩
  have hne := Text.splitUnescapedFrom_ne_nil ['-'] false 0 0 (behind ++ (headLabel ++ head.atHead))
  rw [Text.containsUnescaped, writeAssociation, hbehind, List.append_assoc ['-'],
    Text.splitUnescaped_append_separator (by decide) (hleft '-' (by decide)).1
      (hleft '\\' (by decide)).1, List.length_cons, decide_eq_true_iff]
  exact Nat.succ_lt_succ (List.length_pos_of_ne_nil hne)

/-- No part of an association has blanks at its ends, so there are none at its own. -/
theorem isTrimmed_writeAssociation (htail : IsEndLabel tailLabel) (hhead : IsEndLabel headLabel)
    (tail head : EndMarker) (line : LineStyle) :
    (writeAssociation tail tailLabel line headLabel head).IsTrimmed := by
  have htailMarker : tail.atTail.IsTrimmed := by cases tail <;> exact .of_trim_eq (by decide)
  have hheadMarker : head.atHead.IsTrimmed := by cases head <;> exact .of_trim_eq (by decide)
  have hseparator : (separator line).IsTrimmed := by cases line <;> exact .of_trim_eq (by decide)
  exact (htailMarker.append (.of_trim_eq htail.trim_eq)).append
    (hseparator.append ((Text.IsTrimmed.of_trim_eq hhead.trim_eq).append hheadMarker))

/-- No bracket opens in an association, and nothing is escaped in it. -/
theorem not_mem_writeAssociation (htail : IsEndLabel tailLabel) (hhead : IsEndLabel headLabel)
    (tail head : EndMarker) (line : LineStyle) :
    ∀ c ∈ ['[', '\\'], c ∉ writeAssociation tail tailLabel line headLabel head := by
  have hseparator : ∀ c ∈ ['[', '\\'], c ∉ separator line := by
    cases line <;> exact List.all_iff_forall_prop.mp (by decide)
  intro c hc hmem
  have hside : c ∈ ['-', '[', '\\'] := List.mem_cons_of_mem _ hc
  rcases List.mem_append.mp hmem with hleft | hrest
  · exact (htail.not_mem_side tail c hside).1 hleft
  · rcases List.mem_append.mp hrest with hmiddle | hright
    · exact hseparator c hc hmiddle
    · exact (hhead.not_mem_side head c hside).2 hright

/-- An association is sealed against the brackets around it. -/
theorem isSealed_writeAssociation (htail : IsEndLabel tailLabel) (hhead : IsEndLabel headLabel)
    (tail head : EndMarker) (line : LineStyle) :
    (writeAssociation tail tailLabel line headLabel head).isSealed
      (Kind.openers .classes).contains = true := by
  have hnone := not_mem_writeAssociation htail hhead tail head line
  refine Text.isSealed_of_forall fun c hc => ⟨?_, ?_⟩
  · rintro rfl
    exact hnone _ (by decide) hc
  · have hbracket : c ≠ '[' := by
      rintro rfl
      exact hnone _ (by decide) hc
    simpa [Kind.openers] using hbracket

/-- The edge of an association with the given markers, labels and separator. -/
def edgeOfAssociation (tail : EndMarker) (tailLabel : Text) (line : LineStyle) (headLabel : Text)
    (head : EndMarker) (span : Span) : EdgeExpr where
  tail := tail.arrow
  head := head.arrow
  label := none
  tailLabel := if tailLabel = [] then none else some tailLabel
  headLabel := if headLabel = [] then none else some headLabel
  line := line
  span := span

/-- **An association that is written is read back.** -/
theorem readToken_writeAssociation (htail : IsEndLabel tailLabel) (hhead : IsEndLabel headLabel)
    {tail head : EndMarker} {token : Token}
    (htoken : token.text = writeAssociation tail tailLabel line headLabel head) :
    readToken token =
      .ok (.edge (edgeOfAssociation tail tailLabel line headLabel head token.span)) := by
  have hdash := containsUnescaped_dash_writeAssociation htail tail head line headLabel
  have hassociation : association token =
      .ok (.edge (edgeOfAssociation tail tailLabel line headLabel head token.span)) := by
    refine association_eq_ok_iff.mpr ⟨tail.atTail ++ tailLabel, headLabel ++ head.atHead, ?_, ?_⟩
    · rw [htoken, separatorOf_writeAssociation htail hhead,
        splitUnescaped_writeAssociation htail hhead]
    · rw [htoken, leftEnd_append htail, rightEnd_append hhead,
        containsUnescaped_writeAssociation htail hhead, nonEmptyLabel?_of_isEndLabel htail,
        nonEmptyLabel?_of_isEndLabel hhead]
      cases line <;> rfl
  -- It is neither a bracket nor the connector `^`, which has no dash.
  have henclosed : token.enclosed? '[' ']' = none :=
    Token.enclosed?_eq_none_of_not_mem ']' fun hmem =>
      not_mem_writeAssociation htail hhead tail head line '[' (by decide) (htoken ▸ hmem)
  rw [← htoken] at hdash
  have hcaret : token.text ≠ ['^'] := by
    intro heq
    rw [heq] at hdash
    exact absurd hdash (by decide)
  rw [readToken, henclosed]
  simp only [if_neg hcaret, if_pos hdash, hassociation]

end Reading

/-- **Every association between two classes is read back**: the markers as their arrows, the labels, if there
are any, at their ends, and the separator as the style of the line. -/
theorem parseLine_writeAssociation {tailLabel headLabel : Text} (htail : IsEndLabel tailLabel)
    (hhead : IsEndLabel headLabel) (tail head : EndMarker) (line : LineStyle) (offset : Nat) :
    let association := writeAssociation tail tailLabel line headLabel head
    Kind.parseLine .classes ⟨"[A]".toList ++ (association ++ "[B]".toList), offset⟩ =
      .ok [.node ⟨.record, ['A'], none, .ofLength offset 3⟩,
        .edge (edgeOfAssociation tail tailLabel line headLabel head
          (.ofLength (offset + 3) (Text.byteLength association))),
        .node ⟨.record, ['B'], none, .ofLength (offset + 3 + Text.byteLength association) 3⟩] := by
  intro association
  have hdash := containsUnescaped_dash_writeAssociation htail tail head line headLabel
  have hne : association ≠ [] := by
    intro heq
    rw [show writeAssociation tail tailLabel line headLabel head = [] from heq] at hdash
    exact absurd hdash (by decide)
  have htokens : tokenize (Kind.openers .classes) ("[A]".toList ++ (association ++ "[B]".toList))
      offset = _ :=
    Token.tokenize_bracket_between (Kind.areOpening_openers .classes)
      (show '[' ∈ Kind.openers .classes by decide)
      (show Text.isSealed (· == Token.closerOf '[') ['A'] = true by decide)
      (show Text.isSealed (· == Token.closerOf '[') ['B'] = true by decide) hne
      (isTrimmed_writeAssociation htail hhead tail head line)
      (isSealed_writeAssociation htail hhead tail head line) offset
  -- The tokens are read one by one; the brackets by evaluation.
  have hedge (span : Span) : readToken ⟨association, span⟩ =
      .ok (.edge (edgeOfAssociation tail tailLabel line headLabel head span)) :=
    readToken_writeAssociation htail hhead rfl
  rw [Kind.parseLine, htokens]
  simp only [List.mapM_cons, List.mapM_nil, Kind.readToken, hedge]
  rfl

/-- A dashed association whose labels are made of dots, like its separator. -/
theorem parseLine_writeAssociation_dots :
    IsEndLabel "..".toList ∧ IsEndLabel ['.'] ∧
      writeAssociation .doublePlus "..".toList .dashed ['.'] .angles = "++..-.-.<>".toList ∧
      Kind.parseLine .classes ⟨"[A]++..-.-.<>[B]".toList, 0⟩ =
        .ok [.node ⟨.record, ['A'], none, .ofLength 0 3⟩,
          .edge ⟨.diamond, .hollowDiamond, none, some "..".toList, some ['.'], .dashed, .ofLength 3 10⟩,
          .node ⟨.record, ['B'], none, .ofLength 13 3⟩] := by
  have htail : IsEndLabel "..".toList := ⟨by decide, List.all_iff_forall_prop.mp (by decide)⟩
  have hhead : IsEndLabel ['.'] := ⟨by decide, List.all_iff_forall_prop.mp (by decide)⟩
  exact ⟨htail, hhead, rfl, parseLine_writeAssociation htail hhead .doublePlus .angles .dashed 0⟩

end Classes

end UmlSketch
