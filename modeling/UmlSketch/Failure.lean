import UmlSketch.Configuration.Reading
import UmlSketch.Files.Error
import UmlSketch.Text.Utf8

/-! # Failures
Why no diagram is built: from the files, the configuration and the document to the layout engine. A
failure is described in one line; one that has a cause in the settings or the document also has
diagnostics. -/

namespace UmlSketch

/-- Why a layout engine gives no drawing. -/
inductive RenderError
  /-- There is no layout engine. -/
  | unavailable
  /-- The layout engine fails. -/
  | engine (name : Text) (message : Text)
  /-- The drawing is not a text. -/
  | encoding (error : Utf8Error)
  deriving DecidableEq, Repr

/-- What is wrong with a layout engine. -/
def RenderError.message : RenderError → String
  | .unavailable =>
    "no layout engine available; enable the `graphviz` feature or set a renderer"
  | .engine name message =>
    "layout engine " ++ quoted name ++ " failed: " ++ String.ofList message
  | .encoding error => "layout engine produced invalid UTF-8: " ++ error.message

/-- Why a diagram is not **built**. -/
inductive Failure
  /-- A file cannot be read or written. -/
  | file (error : FileError)
  /-- The configuration that is asked for is not there. -/
  | missingConfiguration (path : Text)
  /-- The configuration cannot be read. -/
  | configuration (error : ConfigurationError) (source : Text)
  /-- The settings are rejected. -/
  | setting (error : SettingError)
  /-- The document does not compile. -/
  | document (error : CompileError) (source : Text)
  /-- The layout engine gives no drawing. -/
  | render (error : RenderError)
  /-- A graph is asked for but the document describes none. -/
  | notAGraph
  deriving DecidableEq, Repr

/-- The diagnostics of a failure that has a cause in the settings or the document, and the document
that they point into; the settings have none. -/
def Failure.diagnostics? : Failure → Option (List Diagnostic × Text)
  | .setting error => some ([error.diagnostic], [])
  | .document error source => some (error.diagnostics, source)
  | _ => none

/-- A failure in one line. -/
def Failure.message : Failure → String
  | .file error => "I/O error: " ++ error.message
  | .missingConfiguration path =>
    "I/O error: Missing configuration file: " ++ String.ofList path
  | .configuration error source =>
    "I/O error: Failed to parse TOML configuration: " ++ error.message source
  | .setting error => Diagnostic.summary [error.diagnostic]
  | .document error _ => Diagnostic.summary error.diagnostics
  | .render error => "Render error: " ++ error.message
  | .notAGraph => "document does not compile into a graph"

end UmlSketch
