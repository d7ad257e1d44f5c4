import UmlSketch.Decimal.Basic
import UmlSketch.Label

/-! # The registry of names
The boxes of a diagram are identified by their record names. The registry gives each new name the
next identifier `A0`, `A1`, … and knows the identifiers of all names seen before. -/

namespace UmlSketch

/-- The identifier of a box in a graph. -/
abbrev NodeId := Text

namespace NodeId

/-- The identifier of the box that is declared after `number` others. -/
def box (number : Nat) : NodeId := 'A' :: Decimal.digitsOf number

/-- The identifier of the point where the line between two boxes is joined by a third. -/
def junction (first second : NodeId) : NodeId := first ++ 'J' :: second

end NodeId

/-- A **registry** of record names, in the order in which they were first seen. -/
structure Registry where
  /-- The names, each once. -/
  names : List Text
  deriving DecidableEq, Repr

namespace Registry

/-- The registry without names. -/
def empty : Registry := ⟨[]⟩

/-- The number of names. -/
def size (registry : Registry) : Nat := registry.names.length

/-- The position of a label's record name among the names. -/
def position? (registry : Registry) (label : Text) : Option Nat :=
  registry.names.idxOf? (Label.recordName label)

/-- The identifier of a label's record name, if the name is known. -/
def get? (registry : Registry) (label : Text) : Option NodeId :=
  (registry.position? label).map NodeId.box

/-- Takes up a label's record name; the identifier is given only if the name is new. -/
def create (registry : Registry) (label : Text) : Registry × Option NodeId :=
  let name := Label.recordName label
  if registry.names.contains name then (registry, none)
  else (⟨registry.names ++ [name]⟩, some (NodeId.box registry.size))

end Registry

end UmlSketch
