import UmlSketch.Proofs.Label.Guarded
import UmlSketch.Proofs.Label.Ports

/-! # Labels as they are shown
The layout engine reads a label with its escapes: `\n` is a line break, and a backslash before a space,
a brace or an angle bracket stands for that character. A label without backslashes that is wrapped and
escaped is read back character by character: semicolons have become line breaks, some spaces have, and
nothing else has changed (`Label.isShown_format`). The bars between the compartments are where they
were, and what stands between two of them comes from the same compartment of the label. -/

namespace UmlSketch

namespace Label

/-! ## Reading escapes -/

/-- A label as it is **shown**: `\n` is a line break, a backslash before a character with a meaning in
the record syntax stands for that character, and everything else stands for itself. -/
def unescape : Text → Text
  | [] => []
  | '\\' :: c :: rest =>
    if c = 'n' then '\n' :: unescape rest
    else if isRecordSyntax c then c :: unescape rest
    else '\\' :: unescape (c :: rest)
  | c :: rest => c :: unescape rest

/-- A character without an escape: a semicolon is a line break. -/
def breakAt (c : Char) : Char := if c = ';' then '\n' else c

theorem unescape_cons {c : Char} (h : c ≠ '\\') (rest : Text) :
    unescape (c :: rest) = c :: unescape rest := by
  rw [unescape]
  rintro d after rfl
  exact absurd rfl h

/-- What is written for a character is read back. -/
theorem unescape_escapeChar_append {c : Char} (h : c ≠ '\\') (rest : Text) :
    unescape (escapeChar c ++ rest) = breakAt c :: unescape rest := by
  by_cases hsyntax : isRecordSyntax c = true
  · have hletter : c ≠ 'n' := by rintro rfl; exact absurd hsyntax (by decide)
    have hbreak : c ≠ ';' := by rintro rfl; exact absurd hsyntax (by decide)
    rw [escapeChar_of_isRecordSyntax hsyntax, breakAt, if_neg hbreak]
    simp [unescape, hletter, hsyntax]
  · unfold escapeChar breakAt
    simp only [isRecordSyntax, Bool.or_eq_true, decide_eq_true_eq] at hsyntax
    rw [if_neg (by tauto)]
    by_cases hbreak : c = ';' ∨ c = '\n'
    · rw [if_pos hbreak]
      rcases hbreak with rfl | rfl <;> simp [unescape]
    · rw [not_or] at hbreak
      rw [if_neg (by tauto), if_neg hbreak.1]
      exact unescape_cons h rest

/-- **Escapes are read back**: nothing is changed but that semicolons become line breaks. -/
theorem unescape_escape {text : Text} (h : '\\' ∉ text) :
    unescape (escape text) = text.map breakAt := by
  induction text with
  | nil => rfl
  | cons c rest ih =>
    rw [List.mem_cons, not_or] at h
    rw [escape, List.flatMap_cons, ← escape, unescape_escapeChar_append (Ne.symm h.1), ih h.2,
      List.map_cons]

/-- A label without backslashes is shown as it is wrapped, with its semicolons as line breaks. -/
theorem unescape_format {label : Text} (h : '\\' ∉ label) (width : Nat) (compartments : Bool) :
    unescape (format label width compartments) = (wrap label width compartments).map breakAt :=
  unescape_escape ((breaksInto_wrap label width compartments).not_mem (by decide) h)

/-! ## Compartments -/

/-- A label with a single compartment is wrapped as a whole. -/
theorem wrap_of_not_mem {label : Text} (h : '|' ∉ label) (width : Nat) (compartments : Bool) :
    wrap label width compartments = Text.wordWrap label width := by
  unfold wrap
  split
  · rw [Text.fields_eq_singleton h, List.map_singleton, Text.join_singleton]
  · rfl

/-- The compartments of a label are wrapped one by one. -/
theorem fields_wrap (label : Text) (width : Nat) :
    Text.fields '|' (wrap label width true) =
      (Text.fields '|' label).map fun field => wrap field width true := by
  have hfields : ((Text.fields '|' label).map fun field => Text.wordWrap field width) =
      (Text.fields '|' label).map fun field => wrap field width true :=
    List.map_congr_left fun field hfield =>
      (wrap_of_not_mem (Text.not_mem_of_mem_fields hfield) width true).symm
  rw [← hfields]
  refine Text.fields_join ?_ ?_
  · exact mt List.map_eq_nil_iff.mp (Text.fields_ne_nil '|' label)
  · rw [List.forall_mem_map]
    exact fun field hfield =>
      (Text.breaksInto_wordWrap field width).not_mem (by decide) (Text.not_mem_of_mem_fields hfield)

/-- The compartments of a label are written one by one. -/
theorem fields_format (label : Text) (width : Nat) :
    Text.fields '|' (format label width true) =
      (Text.fields '|' label).map fun field => format field width true := by
  rw [format, fields_escape, fields_wrap, List.map_map]
  rfl

/-- Line breaks for semicolons leave the fields of a text where they are. -/
theorem fields_map_breakAt (text : Text) :
    Text.fields '|' (text.map breakAt) = (Text.fields '|' text).map (List.map breakAt) := by
  have hbar : ∀ c, c ≠ '|' → '|' ∉ [breakAt c] := by
    intro c hc
    unfold breakAt
    split
    · decide
    · simpa using Ne.symm hc
  have hwrite : List.map breakAt = List.flatMap fun c => [breakAt c] := by
    funext part
    exact List.map_eq_flatMap
  rw [hwrite]
  exact Text.fields_flatMap_of_write (by decide) hbar text

/-- The compartments of a label without backslashes are shown one by one. -/
theorem fields_unescape_format {label : Text} (h : '\\' ∉ label) (width : Nat) :
    Text.fields '|' (unescape (format label width true)) =
      (Text.fields '|' label).map fun field => unescape (format field width true) := by
  rw [unescape_format h, fields_map_breakAt, fields_wrap, List.map_map]
  refine List.map_congr_left fun field hfield => ?_
  -- A compartment has no characters of its own.
  have hfield : '\\' ∉ field := fun hmem => h (Text.mem_of_mem_fields hfield hmem).1
  rw [Function.comp_apply, unescape_format hfield]

/-! ## Labels -/

/-- Whether a character of a label **is shown as** another: a semicolon as a line break, a space as
itself or as a line break, and any other character as itself. -/
def IsShownAs (c d : Char) : Prop := if c = ';' then d = '\n' else d = c ∨ c = ' ' ∧ d = '\n'

/-- What a character becomes when it is wrapped and shown. -/
theorem isShownAs_breakAt {c d : Char} (h : d = c ∨ c = ' ' ∧ d = '\n') : IsShownAs c (breakAt d) := by
  unfold IsShownAs breakAt
  rcases h with rfl | ⟨rfl, rfl⟩
  · split
    · rfl
    · exact Or.inl rfl
  · rw [if_neg (by decide), if_neg (by decide)]
    exact Or.inr ⟨rfl, rfl⟩

/-- A bar is shown as a bar, and so is nothing else. -/
theorem IsShownAs.eq_bar_iff {c d : Char} (h : IsShownAs c d) : d = '|' ↔ c = '|' := by
  unfold IsShownAs at h
  split at h
  · rename_i hsemicolon
    rw [h, hsemicolon]
    decide
  · rcases h with rfl | ⟨rfl, rfl⟩
    · exact Iff.rfl
    · decide

/-- Texts that agree in a character, entry by entry, have it at the same positions. -/
theorem getElem?_eq_some_iff_of_forall₂ {c : Char} {text shown : Text}
    (h : List.Forall₂ (fun d e => e = c ↔ d = c) text shown) (position : Nat) :
    shown[position]? = some c ↔ text[position]? = some c := by
  induction h generalizing position with
  | nil => exact Iff.rfl
  | cons hfirst _ ih =>
    cases position with
    | zero => simpa using hfirst
    | succ position => simpa using ih position

/-- **How a label is shown** if it has no backslash; `compartments` tells whether it is wrapped by
compartments. -/
structure IsShown (label : Text) (width : Nat) (compartments : Bool) : Prop where
  /-- The label is shown character by character, all semicolons and some spaces as line breaks. -/
  characters : List.Forall₂ IsShownAs label (unescape (format label width compartments))
  /-- The bars are shown where they stand in the label. -/
  bars : ∀ position : Nat, (unescape (format label width compartments))[position]? = some '|' ↔
    label[position]? = some '|'
  /-- Each compartment is written for the same compartment of the label. -/
  written : compartments = true → Text.fields '|' (format label width compartments) =
    (Text.fields '|' label).map fun field => format field width compartments
  /-- Each compartment is shown for the same compartment of the label. -/
  shown : compartments = true → Text.fields '|' (unescape (format label width compartments)) =
    (Text.fields '|' label).map fun field => unescape (format field width compartments)

/-- **A label without backslashes is read back** from what is written for it, at every width, with
compartments or without. -/
theorem isShown_format {label : Text} (h : '\\' ∉ label) (width : Nat) (compartments : Bool) :
    IsShown label width compartments := by
  have hcharacters : List.Forall₂ IsShownAs label (unescape (format label width compartments)) := by
    rw [unescape_format h, List.forall₂_map_right_iff]
    exact (breaksInto_wrap label width compartments).imp fun _ _ => isShownAs_breakAt
  exact {
    characters := hcharacters
    bars := getElem?_eq_some_iff_of_forall₂ (hcharacters.imp fun _ _ => IsShownAs.eq_bar_iff)
    written := by rintro rfl; exact fields_format label width
    shown := by rintro rfl; exact fields_unescape_format h width }

/-- A class whose second compartment is broken at a semicolon and at a space. -/
theorem isShown_format_compartments :
    '\\' ∉ "Map<K>|get; put all|\x7bx\x7d".toList ∧
      format "Map<K>|get; put all|\x7bx\x7d".toList 8 true =
        "Map\\<K\\>|get\\n\\ put\\nall|\\\x7bx\\\x7d".toList ∧
      IsShown "Map<K>|get; put all|\x7bx\x7d".toList 8 true :=
  ⟨by decide, by decide +kernel, isShown_format (by decide) 8 true⟩

end Label

end UmlSketch
