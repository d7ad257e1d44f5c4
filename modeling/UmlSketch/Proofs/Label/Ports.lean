import Mathlib.Data.List.Nodup
import Mathlib.Logic.Function.Iterate
import UmlSketch.Dialect.Activities
import UmlSketch.Proofs.Registry

/-! # The ports of a label
A port is a field of a label between angle brackets, and its number is that of the field. Escaping puts
a backslash before every angle bracket, so what is drawn from a bracket of a document has no ports,
whatever its text: the ports of a node are those that were added to it. They are numbered on from the
fields that the node was drawn with (`Node.portFields_iterate_addPort`). -/

namespace UmlSketch

/-! ## Ports among the fields of a label -/

namespace Label

/-- The name of the port at the field with a number, counted from one. -/
def portName (number : Nat) : Text := 'f' :: Decimal.digitsOf number

/-- A port as a field of a label. -/
def portField (port : Text) : Text := '<' :: port ++ ['>']

/-- Whether a field of a label is a **port**. -/
def IsPortField (field : Text) : Prop := ∃ number, field = portField (portName number)

/-- The number of a port is read off the digits of its field. -/
theorem isPortField_iff (field : Text) :
    IsPortField field ↔
      field = portField (portName (Nat.ofDigitChars 10 (field.drop 2).dropLast 0)) := by
  constructor
  · rintro ⟨number, rfl⟩
    simp [portField, portName, Decimal.digitsOf]
  · exact fun h => ⟨_, h⟩

instance : DecidablePred IsPortField := fun field =>
  decidable_of_iff _ (isPortField_iff field).symm

/-- The ports among the fields of a label, from left to right. -/
def portFields (label : Text) : List Text :=
  (Text.fields '|' label).filter fun field => IsPortField field

/-- The fields that ports are added to; the empty label has none yet. -/
def compartments (label : Text) : List Text := if label = [] then [] else Text.fields '|' label

/-- Ports of different names are different fields. -/
theorem portField_injective : Function.Injective portField := by
  intro first second h
  exact List.append_cancel_right (List.cons.inj h).2

/-- The number of a field determines the name of its port. -/
theorem portName_injective : Function.Injective portName := by
  intro first second h
  have hdigits : Nat.toDigits 10 first = Nat.toDigits 10 second := (List.cons.inj h).2
  have hvalue := congrArg (Nat.ofDigitChars 10 · 0) hdigits
  simpa using hvalue

/-- A port starts with an angle bracket. -/
theorem not_isPortField_of_head? {field : Text} (h : field.head? ≠ some '<') :
    ¬ IsPortField field := by
  rintro ⟨number, rfl⟩
  exact h rfl

/-- A port is a single field. -/
theorem fields_portField_portName (number : Nat) :
    Text.fields '|' (portField (portName number)) = [portField (portName number)] := by
  refine Text.fields_eq_singleton fun hmem => ?_
  have hdigit : '|' ∉ Decimal.digitsOf number := fun hbar =>
    absurd (Nat.isDigit_of_mem_toDigits (by decide) (by decide) hbar) (by decide)
  simp [portField, portName, hdigit] at hmem

@[simp] theorem portFields_nil : portFields [] = [] := by decide

/-- The ports are among the fields that ports are added to. -/
theorem portFields_eq_filter (label : Text) :
    portFields label = (compartments label).filter fun field => IsPortField field := by
  unfold compartments
  split
  · -- The empty label has one field, which is empty and so no port.
    rename_i hnil
    rw [hnil, portFields_nil, List.filter_nil]
  · rfl

/-- A label whose fields do not start with an angle bracket has no ports. -/
theorem portFields_eq_nil {label : Text}
    (h : ∀ field ∈ Text.fields '|' label, field.head? ≠ some '<') : portFields label = [] := by
  rw [portFields, List.filter_eq_nil_iff]
  intro field hfield
  simpa using not_isPortField_of_head? (h field hfield)

/-! ## Escaped texts -/

/-- What is written for a character does not start with an angle bracket. -/
theorem head?_escapeChar_append (c : Char) (text : Text) : (escapeChar c ++ text).head? ≠ some '<' := by
  unfold escapeChar
  split
  · simp
  · rename_i hsyntax
    split
    · simp
    · simpa using fun h => hsyntax (by simp [h])

/-- What is written for a character ends a field only if the character does. -/
theorem bar_not_mem_escapeChar {c : Char} (h : c ≠ '|') : '|' ∉ escapeChar c := by
  unfold escapeChar
  split
  · simpa using Ne.symm h
  · split
    · decide
    · simpa using Ne.symm h

/-- The fields of an escaped text are those of the text, escaped. -/
theorem fields_escape (text : Text) :
    Text.fields '|' (escape text) = (Text.fields '|' text).map escape :=
  Text.fields_flatMap_of_write (by decide) (fun _ => bar_not_mem_escapeChar) text

/-- No field of an escaped text starts with an angle bracket. -/
theorem head?_of_mem_fields_escape (text : Text) :
    ∀ field ∈ Text.fields '|' (escape text), field.head? ≠ some '<' := by
  rw [fields_escape, List.forall_mem_map]
  intro field _
  cases field with
  | nil => simp
  | cons c rest =>
    rw [escape, List.flatMap_cons]
    exact head?_escapeChar_append c _

/-- **An escaped text has no ports.** -/
theorem portFields_escape (text : Text) : portFields (escape text) = [] :=
  portFields_eq_nil (head?_of_mem_fields_escape text)

end Label

/-! ## Adding ports -/

namespace Node

open Label

/-- The next port is numbered after the fields of the label. -/
theorem nextPort_eq (label : Text) : nextPort label = portName ((compartments label).length + 1) := by
  unfold nextPort compartments
  split <;> rfl

/-- **What adding a port does to a label**: the port is one more field behind the others. -/
theorem compartments_addPort (node : Node) :
    compartments node.addPort.label =
      compartments node.label ++ [portField (nextPort node.label)] := by
  have hfield : Text.fields '|' (portField (nextPort node.label)) =
      [portField (nextPort node.label)] := by
    rw [nextPort_eq]
    exact fields_portField_portName _
  -- The first port takes the place of an empty label, and any other stands behind a bar.
  by_cases hnil : node.label = []
  · have hlabel : node.addPort.label = portField (nextPort node.label) := if_pos hnil
    have hempty : compartments node.label = [] := if_pos hnil
    rw [hempty, hlabel]
    exact hfield
  · have hlabel : node.addPort.label = node.label ++ '|' :: portField (nextPort node.label) :=
      if_neg hnil
    rw [hlabel, compartments, if_neg (by simp), Text.fields_append_cons, hfield, compartments,
      if_neg hnil]

/-- A port that is added stands behind the others. -/
theorem portFields_addPort (node : Node) :
    portFields node.addPort.label = portFields node.label ++ [portField (nextPort node.label)] := by
  have hport : IsPortField (portField (nextPort node.label)) := ⟨_, by rw [nextPort_eq]⟩
  rw [portFields_eq_filter, compartments_addPort, List.filter_append, ← portFields_eq_filter,
    List.filter_cons_of_pos (by simpa using hport), List.filter_nil]

/-- Ports that are added one after the other are numbered from the fields of the label on. -/
theorem portFields_iterate_addPort (node : Node) (count : Nat) :
    portFields (addPort^[count] node).label =
      portFields node.label ++
        (List.range' ((compartments node.label).length + 1) count).map (portField ∘ portName) := by
  induction count generalizing node with
  | zero => simp
  | succ count ih =>
    rw [Function.iterate_succ_apply, ih, portFields_addPort, compartments_addPort,
      List.length_append, List.range'_succ, List.map_cons, nextPort_eq, List.append_assoc]
    rfl

/-- **The ports that are added to a label without ports differ.** -/
theorem nodup_portFields_iterate_addPort {node : Node} (h : portFields node.label = []) (count : Nat) :
    (portFields (addPort^[count] node).label).Nodup := by
  rw [portFields_iterate_addPort, h, List.nil_append]
  exact List.Nodup.map (portField_injective.comp portName_injective) (List.nodup_range')

end Node

/-- What is drawn from a bracket of an activity diagram has no text or the escaped text of the bracket. -/
theorem Activities.label_draw (direction : Direction) (id : NodeId) (bracket : NodeExpr) :
    (draw direction id bracket).label = [] ∨
      (draw direction id bracket).label = Label.escape bracket.label := by
  have hbox (shape : Shape) :
      (((Boxes.boxed id shape (Label.escape bracket.label)).withStyle .rounded).withFill
        bracket.fill).label = Label.escape bracket.label := by
    simp [Boxes.boxed]
  unfold draw
  split
  · -- The start and the end of a flow are circles without text.
    unfold Boxes.terminal?
    split
    · exact Or.inl rfl
    split
    · exact Or.inl rfl
    · exact Or.inr (hbox .rectangle)
  · exact Or.inl rfl
  · exact Or.inl (Node.label_withStyle _ _)
  · exact Or.inr (hbox .note)
  · exact Or.inr (hbox .rectangle)

/-- **What is drawn from a bracket of an activity diagram has no ports.** -/
theorem Activities.portFields_draw (direction : Direction) (id : NodeId) (bracket : NodeExpr) :
    Label.portFields (draw direction id bracket).label = [] := by
  rcases label_draw direction id bracket with h | h
  · rw [h, Label.portFields_nil]
  · rw [h, Label.portFields_escape]

end UmlSketch
