import UmlSketch.Failure
import UmlSketch.Sequence.Drawing
import UmlSketch.Svg.Picture

/-! # Building diagrams
A document is built into the description of a graph or into a drawing, by settings that are given
outside the document. A graph is drawn by a layout engine, which may fail or may be missing. -/

namespace UmlSketch

/-- A **layout engine**: it draws the graph of a description, with the named method of layout. -/
abbrev Renderer := Text → Text → Except RenderError Text

/-- What a document is built into. -/
inductive Output
  /-- The description of a graph. -/
  | description (text : Text)
  /-- A drawing. -/
  | drawing (text : Text)
  deriving DecidableEq, Repr

/-- The text of an output. -/
def Output.text : Output → Text
  | .description text | .drawing text => text

/-- The drawing of a document without instructions. -/
def emptyDrawing : Text := "<svg xmlns=\"http://www.w3.org/2000/svg\"/>".toList

/-- What a diagram is written as. -/
def Artifact.output (artifact : Artifact) (configuration : Configuration) : Output :=
  let dark := configuration.diagram.dark
  match artifact with
  | .empty => .drawing emptyDrawing
  | .graph described => .description (described.describe ⟨dark, configuration.header⟩)
  | .sequence model => .drawing (Drawing.ofModel model dark)

namespace Configuration

/-- Compiles a document by a configuration. -/
def compile (configuration : Configuration) (source : Text) : Except Failure Compilation := do
  let options ← configuration.diagram.compileOptions.mapError Failure.setting
  (UmlSketch.compile source options).mapError fun error => .document error source

/-- Builds a document without drawing graphs. -/
def build (configuration : Configuration) (source : Text) : Except Failure Output :=
  (configuration.compile source).map fun compilation =>
    compilation.artifact.output configuration

/-- The description of the graph that a document describes. -/
def describe (configuration : Configuration) (source : Text) : Except Failure Text := do
  match ← configuration.build source with
  | .description text => .ok text
  | .drawing _ => .error .notAGraph

/-- Draws a document; a graph is drawn by the layout engine, and its pictures are embedded. -/
def draw (configuration : Configuration) (renderer : Option Renderer) (source : Text) :
    Except Failure Text := do
  match ← configuration.build source with
  | .drawing text => .ok text
  | .description text =>
    match renderer with
    | none => .error (.render .unavailable)
    | some render =>
      let drawing ← (render text configuration.engine).mapError Failure.render
      .ok (Svg.embedPictures drawing configuration.diagram.dark)

end Configuration

end UmlSketch
