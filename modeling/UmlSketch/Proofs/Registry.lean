import Mathlib.Data.List.Basic
import Mathlib.Data.List.Induction
import UmlSketch.Expr
import UmlSketch.Registry

/-! # The numbering of names
The registry lists the record names of the brackets it has taken up, each once and in the order in
which they were first seen, and the identifier of a name is its place in that list. Identifiers of
boxes are told apart by their numbers, and the identifier of a junction is never that of a box. -/

namespace UmlSketch

/-! ## Identifiers -/

namespace NodeId

/-- The digits of a number determine it. -/
theorem box_injective : Function.Injective box := by
  intro first second h
  have hdigits : Nat.toDigits 10 first = Nat.toDigits 10 second := (List.cons.inj h).2
  have hvalue := congrArg (Nat.ofDigitChars 10 · 0) hdigits
  simpa using hvalue

/-- Whether an identifier is that of a box. -/
def IsBox (id : NodeId) : Prop := ∃ number, id = box number

@[simp] theorem isBox_box (number : Nat) : IsBox (box number) := ⟨number, rfl⟩

/-- The number of a box is read off the digits of its identifier. -/
theorem isBox_iff (id : NodeId) : IsBox id ↔ id = box (Nat.ofDigitChars 10 id.tail 0) := by
  constructor
  · rintro ⟨number, rfl⟩
    simp [box, Decimal.digitsOf]
  · exact fun h => ⟨_, h⟩

instance : DecidablePred IsBox := fun id => decidable_of_iff _ (isBox_iff id).symm

/-- The identifier of a box is a letter followed by digits. -/
theorem isDigit_of_mem_box {number : Nat} {c : Char} (h : c ∈ box number) :
    c = 'A' ∨ c.isDigit = true := by
  rcases List.mem_cons.mp h with rfl | h
  · exact Or.inl rfl
  · exact Or.inr (Nat.isDigit_of_mem_toDigits (by decide) (by decide) h)

/-- The identifier of a junction is not that of a box. -/
theorem not_isBox_junction (first second : NodeId) : ¬ IsBox (junction first second) := by
  rintro ⟨number, h⟩
  have hmem : 'J' ∈ box number := by rw [← h]; simp [junction]
  exact absurd (isDigit_of_mem_box hmem) (by decide)

end NodeId

/-! ## Record names -/

/-- The record name of a bracket. -/
def NodeExpr.name (node : NodeExpr) : Text := Label.recordName node.label

/-- The record names of a list of brackets, each once, in the order in which they are first seen. -/
def recordNames (brackets : List NodeExpr) : List Text := (brackets.map NodeExpr.name).eraseDups

/-- The first bracket of a list with a given record name. -/
def firstNamed? (brackets : List NodeExpr) (name : Text) : Option NodeExpr :=
  brackets.find? fun bracket => bracket.name = name

@[simp] theorem recordNames_nil : recordNames [] = [] := rfl

@[simp] theorem mem_recordNames {brackets : List NodeExpr} {name : Text} :
    name ∈ recordNames brackets ↔ ∃ bracket ∈ brackets, bracket.name = name := by
  simp [recordNames]

/-- A bracket at the end of a list adds its name if that is new. -/
theorem recordNames_concat (brackets : List NodeExpr) (bracket : NodeExpr) :
    recordNames (brackets ++ [bracket]) =
      if bracket.name ∈ recordNames brackets then recordNames brackets
      else recordNames brackets ++ [bracket.name] := by
  have hmem : bracket.name ∈ recordNames brackets ↔
      (brackets.map NodeExpr.name).elem bracket.name = true := by simp
  rw [recordNames, List.map_append, List.eraseDups_append, List.map_singleton]
  split
  · rename_i h
    rw [List.removeAll, List.filter_cons_of_neg (by simpa using hmem.mp h)]
    simp [recordNames]
  · rename_i h
    rw [List.removeAll, List.filter_cons_of_pos (by simpa using h)]
    simp [recordNames, List.eraseDups_cons]

/-- No name is listed twice. -/
theorem nodup_recordNames (brackets : List NodeExpr) : (recordNames brackets).Nodup := by
  induction brackets using List.reverseRecOn with
  | nil => exact List.nodup_nil
  | append_singleton rest last ih =>
    rw [recordNames_concat]
    split
    · exact ih
    · rename_i hnew
      rw [List.nodup_append]
      refine ⟨ih, by simp, ?_⟩
      rintro name hname other hother rfl
      exact hnew (List.mem_singleton.mp hother ▸ hname)

/-- Further brackets leave the names before them in their places. -/
theorem recordNames_prefix_append (brackets more : List NodeExpr) :
    recordNames brackets <+: recordNames (brackets ++ more) := by
  rw [recordNames, recordNames, List.map_append, List.eraseDups_append]
  exact List.prefix_append _ _

/-- The place of a name among the names of a document is settled when the name is first seen. -/
theorem idxOf_recordNames_append {brackets : List NodeExpr} {name : Text}
    (h : name ∈ recordNames brackets) (more : List NodeExpr) :
    (recordNames (brackets ++ more)).idxOf name = (recordNames brackets).idxOf name := by
  obtain ⟨rest, hrest⟩ := recordNames_prefix_append brackets more
  rw [← hrest, List.idxOf_append_of_mem h]

/-- A bracket at the end of a list is the first of its name only if the name is new. -/
theorem firstNamed?_concat (brackets : List NodeExpr) (bracket : NodeExpr) (name : Text) :
    firstNamed? (brackets ++ [bracket]) name =
      (firstNamed? brackets name).or (if bracket.name = name then some bracket else none) := by
  rw [firstNamed?, List.find?_append, List.find?_singleton]
  simp [firstNamed?]

/-- A name that is listed has a first bracket. -/
theorem firstNamed?_isSome {brackets : List NodeExpr} {name : Text} :
    (firstNamed? brackets name).isSome ↔ name ∈ recordNames brackets := by
  simp [firstNamed?]

/-- The first bracket with a name has that name. -/
theorem name_of_firstNamed? {brackets : List NodeExpr} {name : Text} {bracket : NodeExpr}
    (h : firstNamed? brackets name = some bracket) : bracket.name = name := by
  simpa using List.find?_some h

/-! ## Taking up names -/

namespace Registry

/-- The names after a label has been taken up. -/
theorem names_create (registry : Registry) (label : Text) :
    (registry.create label).1.names =
      if Label.recordName label ∈ registry.names then registry.names
      else registry.names ++ [Label.recordName label] := by
  simp only [create, List.contains_iff_mem]
  split <;> rfl

/-- A label is given an identifier if its name is new, and the identifier counts the names before. -/
theorem create_snd (registry : Registry) (label : Text) :
    (registry.create label).2 =
      if Label.recordName label ∈ registry.names then none
      else some (NodeId.box registry.size) := by
  simp only [create, List.contains_iff_mem]
  split <;> rfl

/-- The position of a known name is its place among the names. -/
theorem position?_eq_some_of_mem {registry : Registry} {label : Text}
    (h : Label.recordName label ∈ registry.names) :
    registry.position? label = some (registry.names.idxOf (Label.recordName label)) :=
  List.findIdx?_eq_some_of_exists ⟨_, h, beq_self_eq_true _⟩

/-- The identifier of a known name is its place among the names. -/
theorem get?_eq_some_of_mem {registry : Registry} {label : Text}
    (h : Label.recordName label ∈ registry.names) :
    registry.get? label =
      some (NodeId.box (registry.names.idxOf (Label.recordName label))) := by
  rw [get?, position?_eq_some_of_mem h, Option.map_some]

end Registry

end UmlSketch
