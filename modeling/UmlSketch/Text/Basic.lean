/-! # Texts
A text is the list of its characters, so that every reader of the notation is a recursion on it.
Positions in a document are counted in UTF-8 bytes: `Text.byteLength` is that measure, additive over
`++`. The module also cuts a text at a character (`Text.fields`), puts the parts together again
(`Text.join_fields`) and replaces the occurrences of a pattern (`Text.replace`). -/

namespace UmlSketch

/-- A **text**: the list of its characters. -/
abbrev Text := List Char

namespace Text

/-! ## Length in bytes -/

/-- The number of bytes a text takes in UTF-8. -/
def byteLength (text : Text) : Nat := text.foldr (fun c length => c.utf8Size + length) 0

@[simp] theorem byteLength_nil : byteLength [] = 0 := rfl

@[simp] theorem byteLength_cons (c : Char) (text : Text) :
    byteLength (c :: text) = c.utf8Size + byteLength text := rfl

@[simp] theorem byteLength_append (first second : Text) :
    byteLength (first ++ second) = byteLength first + byteLength second := by
  induction first with
  | nil => simp
  | cons c rest ih => simp [ih, Nat.add_assoc]

/-! ## Order -/

/-- Whether a text comes before another or is the same, in the order of the first character that
differs. -/
def precedes : Text → Text → Bool
  | [], _ => true
  | _ :: _, [] => false
  | c :: rest, d :: other => c.toNat < d.toNat || (c = d && precedes rest other)

/-! ## Cutting and joining -/

/-- Puts a character in front of the first text of a list. -/
def consFirst (c : Char) : List Text → List Text
  | [] => [[c]]
  | first :: rest => (c :: first) :: rest

@[simp] theorem consFirst_cons (c : Char) (first : Text) (rest : List Text) :
    consFirst c (first :: rest) = (c :: first) :: rest := rfl

/-- The parts of a text between the occurrences of a separating character; there is always one. -/
def fields (separator : Char) : Text → List Text
  | [] => [[]]
  | c :: rest =>
    if c = separator then [] :: fields separator rest else consFirst c (fields separator rest)

@[simp] theorem fields_nil (separator : Char) : fields separator [] = [[]] := rfl

theorem fields_ne_nil (separator : Char) (text : Text) : fields separator text ≠ [] := by
  cases text with
  | nil => simp
  | cons c rest =>
    unfold fields
    split
    · simp
    · cases fields separator rest <;> simp [consFirst]

/-- What stands before the first separator belongs to the first field. -/
theorem fields_append_of_not_mem {separator : Char} {front : Text} (hfront : separator ∉ front)
    {text first : Text} {others : List Text} (htext : fields separator text = first :: others) :
    fields separator (front ++ text) = (front ++ first) :: others := by
  induction front with
  | nil => exact htext
  | cons c front ih =>
    rw [List.mem_cons, not_or] at hfront
    rw [List.cons_append, fields, if_neg (Ne.symm hfront.1), ih hfront.2, consFirst_cons,
      List.cons_append]

/-- A text without the separator is its only field. -/
theorem fields_eq_singleton {separator : Char} {text : Text} (h : separator ∉ text) :
    fields separator text = [text] := by
  simpa using fields_append_of_not_mem h (fields_nil separator)

/-- The fields on either side of a separator are those of the two parts. -/
theorem fields_append_cons (separator : Char) (text rest : Text) :
    fields separator (text ++ separator :: rest) = fields separator text ++ fields separator rest := by
  induction text with
  | nil => simp [fields]
  | cons c text ih =>
    obtain ⟨first, others, hfields⟩ := List.exists_cons_of_ne_nil (fields_ne_nil separator text)
    rw [List.cons_append, fields, fields, ih]
    split
    · rfl
    · rw [hfields]
      rfl

/-- A part of a text up to the first separator is a field of its own. -/
theorem fields_of_not_mem {separator : Char} {part : Text} (h : separator ∉ part) (rest : Text) :
    fields separator (part ++ separator :: rest) = part :: fields separator rest := by
  rw [fields_append_cons, fields_eq_singleton h, List.singleton_append]

/-- The texts of a list one after the other, with a separator between neighbours. -/
def join (separator : Text) (parts : List Text) : Text := separator.intercalate parts

@[simp] theorem join_nil (separator : Text) : join separator [] = [] := rfl

@[simp] theorem join_singleton (separator part : Text) : join separator [part] = part := by
  simp [join, List.intercalate]

@[simp] theorem join_cons_cons (separator first second : Text) (rest : List Text) :
    join separator (first :: second :: rest) =
      first ++ separator ++ join separator (second :: rest) := by
  simp [join, List.intercalate]

/-- Joining the fields of a text with their separator gives back the text. -/
theorem join_fields (separator : Char) (text : Text) :
    join [separator] (fields separator text) = text := by
  induction text with
  | nil => simp
  | cons c rest ih =>
    obtain ⟨first, others, h⟩ := List.exists_cons_of_ne_nil (fields_ne_nil separator rest)
    rw [h] at ih
    unfold fields
    split
    · simp_all
    · rw [h, consFirst_cons]
      cases others with
      | nil => simpa using ih
      | cons second more => simpa using ih

/-- The characters of a field are characters of the text other than the separator. -/
theorem mem_of_mem_fields {separator : Char} {text field : Text}
    (hfield : field ∈ fields separator text) {c : Char} (hc : c ∈ field) :
    c ∈ text ∧ c ≠ separator := by
  induction text generalizing field with
  | nil =>
    rw [fields_nil, List.mem_singleton] at hfield
    simp [hfield] at hc
  | cons d rest ih =>
    obtain ⟨first, others, hfields⟩ := List.exists_cons_of_ne_nil (fields_ne_nil separator rest)
    rw [hfields] at ih
    rw [fields, hfields, consFirst_cons] at hfield
    split at hfield
    · rcases List.mem_cons.mp hfield with rfl | hmem
      · simp at hc
      · exact (ih hmem hc).imp_left (List.mem_cons_of_mem d)
    · rename_i hd
      rcases List.mem_cons.mp hfield with rfl | hmem
      · rcases List.mem_cons.mp hc with rfl | hc
        · exact ⟨List.mem_cons_self, hd⟩
        · exact (ih List.mem_cons_self hc).imp_left (List.mem_cons_of_mem d)
      · exact (ih (List.mem_cons_of_mem first hmem) hc).imp_left (List.mem_cons_of_mem d)

/-- A field does not hold the separator. -/
theorem not_mem_of_mem_fields {separator : Char} {text field : Text}
    (h : field ∈ fields separator text) : separator ∉ field :=
  fun hmem => (mem_of_mem_fields h hmem).2 rfl

/-- The fields of parts that are joined by the separator are the parts. -/
theorem fields_join {separator : Char} {parts : List Text} (hne : parts ≠ [])
    (h : ∀ part ∈ parts, separator ∉ part) : fields separator (join [separator] parts) = parts := by
  induction parts with
  | nil => exact absurd rfl hne
  | cons first others ih =>
    rw [List.forall_mem_cons] at h
    cases others with
    | nil => rw [join_singleton, fields_eq_singleton h.1]
    | cons second rest =>
      rw [join_cons_cons, List.append_assoc, List.singleton_append, fields_of_not_mem h.1,
        ih (List.cons_ne_nil second rest) h.2]

/-- When every character of a text is written anew, the separator as itself and no other character with
a separator in it, the fields are written anew one by one. -/
theorem fields_flatMap_of_write {separator : Char} {write : Char → Text}
    (hseparator : write separator = [separator]) (hother : ∀ c, c ≠ separator → separator ∉ write c)
    (text : Text) :
    fields separator (text.flatMap write) = (fields separator text).map (List.flatMap write) := by
  induction text with
  | nil => rfl
  | cons c rest ih =>
    rw [List.flatMap_cons]
    by_cases hc : c = separator
    · rw [hc, hseparator, List.singleton_append, fields, if_pos rfl, ih, fields, if_pos rfl,
        List.map_cons, List.flatMap_nil]
    · obtain ⟨first, others, hfields⟩ := List.exists_cons_of_ne_nil (fields_ne_nil separator rest)
      rw [hfields, List.map_cons] at ih
      rw [fields_append_of_not_mem (hother c hc) ih, fields, if_neg hc, hfields, consFirst_cons,
        List.map_cons, List.flatMap_cons]

/-! ## Ends -/

/-- Takes a pattern off the start of a text. -/
def dropStart? (pattern text : Text) : Option Text :=
  if pattern.isPrefixOf text then some (text.drop pattern.length) else none

/-- Takes a pattern off the end of a text. -/
def dropEnd? (pattern text : Text) : Option Text :=
  if pattern.isSuffixOf text then some (text.take (text.length - pattern.length)) else none

theorem dropStart?_eq_some {pattern text rest : Text} (h : dropStart? pattern text = some rest) :
    text = pattern ++ rest := by
  unfold dropStart? at h
  split at h
  · rename_i hstart
    obtain ⟨after, rfl⟩ := List.isPrefixOf_iff_prefix.mp hstart
    simpa using h
  · simp at h

theorem dropEnd?_eq_some {pattern text rest : Text} (h : dropEnd? pattern text = some rest) :
    text = rest ++ pattern := by
  unfold dropEnd? at h
  split at h
  · rename_i hend
    obtain ⟨before, rfl⟩ := List.isSuffixOf_iff_suffix.mp hend
    simpa using h
  · simp at h

/-! ## Finding and replacing -/

/-- Cuts a text before the first place where the pattern occurs and drops the pattern there. -/
def splitFirst (pattern : Text) : Text → Option (Text × Text)
  | [] => if pattern = [] then some ([], []) else none
  | c :: rest =>
    if pattern.isPrefixOf (c :: rest) then some ([], (c :: rest).drop pattern.length)
    else (splitFirst pattern rest).map fun (before, after) => (c :: before, after)

/-- Passes over `skip` characters, then replaces every occurrence of the pattern. -/
def replaceFrom (pattern replacement : Text) : Nat → Text → Text
  | _, [] => []
  | skip + 1, _ :: rest => replaceFrom pattern replacement skip rest
  | 0, c :: rest =>
    if pattern.isPrefixOf (c :: rest) then
      replacement ++ replaceFrom pattern replacement (pattern.length - 1) rest
    else c :: replaceFrom pattern replacement 0 rest

/-- Replaces the occurrences of a non-empty pattern, found from left to right without overlap. -/
def replace (pattern replacement text : Text) : Text := replaceFrom pattern replacement 0 text

end Text

end UmlSketch
