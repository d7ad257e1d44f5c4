import UmlSketch.Compilation
import UmlSketch.Graph.Description

/-! # Configuration
The settings that are given outside a document: what kind of diagram and what direction a document
starts from, the palette, the changes to the header of graph descriptions, and the layout engine. Names
are kept as they are written and are checked when a document is compiled. -/

namespace UmlSketch

/-- The settings of diagrams as they are written; they are checked when a document is compiled. -/
structure DiagramSettings where
  /-- The name of the kind of diagram. -/
  kind : Option Text := none
  /-- The name of the direction. -/
  direction : Option Text := none
  /-- Whether lines and texts are white. -/
  dark : Bool := false
  deriving DecidableEq, Repr

/-- What documents start from by these settings: the kind is looked at first. -/
def DiagramSettings.compileOptions (settings : DiagramSettings) :
    Except SettingError CompileOptions := do
  let defaults : CompileOptions := {}
  let kind ←
    match settings.kind with
    | none => .ok defaults.kind
    | some name =>
      match Kind.ofText? name with
      | some kind => .ok (some kind)
      | none => .error (.unknownKind name)
  let direction ←
    match settings.direction with
    | none => .ok defaults.direction
    | some name =>
      match Direction.ofText? name with
      | some direction => .ok direction
      | none => .error (.unknownDirection name)
  .ok ⟨kind, direction⟩

/-- All settings that are given outside a document. -/
structure Configuration where
  /-- The settings of diagrams. -/
  diagram : DiagramSettings := {}
  /-- The changes to the header of graph descriptions. -/
  header : HeaderOverrides := {}
  /-- The name of the layout engine. -/
  engine : Text := "dot".toList
  deriving DecidableEq, Repr

namespace DiagramSettings

/-- Settings that take the place of others where they say something; lines and texts are white if either
asks for it. -/
def merge (first second : DiagramSettings) : DiagramSettings where
  kind := first.kind.or second.kind
  direction := first.direction.or second.direction
  dark := first.dark || second.dark

end DiagramSettings

end UmlSketch
