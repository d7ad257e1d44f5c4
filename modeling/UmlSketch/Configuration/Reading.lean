import UmlSketch.Configuration.Basic
import UmlSketch.Toml.Document

/-! # Reading configurations
A configuration is written as a TOML document with the sections `diagram`, `dot_header` and `render`.
All sections and settings may be left out, and those that are not known are passed over. A section may
also be written as an array of its settings in their order; what follows them is not looked at. -/

namespace UmlSketch

/-- Why a text is no configuration. -/
inductive ConfigurationError
  /-- The text is no document. -/
  | document (error : Toml.DocumentError)
  /-- A setting or a section has a value that is of no use for it. -/
  | wrongType (setting : String)
  /-- A number in a setting that is not known is out of range. -/
  | outOfRange (setting : Text)
  deriving DecidableEq, Repr

/-- What is wrong with a configuration. -/
def ConfigurationError.message (error : ConfigurationError) (source : Text) : String :=
  match error with
  | .document error => error.message source
  | .wrongType setting => "wrong type of value for `" ++ setting ++ "`"
  | .outOfRange setting => "number out of range in `" ++ String.ofList setting ++ "`"

/-! ## Values -/

/-- The settings of a section with the given names; a date has none. -/
def Toml.Value.section? (names : List String) : Toml.Value → Option Toml.Entries
  | .table _ entries => some entries
  | .array items => some ((names.map String.toList).zip items)
  | .tables earlier entries =>
    some ((names.map String.toList).zip (earlier ++ [.table .declared entries]))
  | .moment _ => some []
  | _ => none

/-- The text of a string. -/
def Toml.Value.text? : Toml.Value → Option Text
  | .string text => some text
  | _ => none

/-- A truth value. -/
def Toml.Value.flag? : Toml.Value → Option Bool
  | .boolean value => some value
  | _ => none

/-- The name of the one entry that a date or a time has where a table of strings is expected. -/
def momentName : Text := "$__toml_private_datetime".toList

/-- A table of strings, sorted by name. -/
def Toml.Value.attributes? : Toml.Value → Option Attributes
  | .table _ entries =>
    let texts? := entries.mapM fun (entry : Text × Toml.Value) =>
      entry.2.text?.map fun text => (entry.1, text)
    texts?.map fun texts => texts.mergeSort fun first second => Text.precedes first.1 second.1
  | .moment value => some [(momentName, value.render)]
  | _ => none

/-- Reads the setting with the given name, or takes the default if it is left out. -/
def Toml.Entries.setting (entries : Toml.Entries) (name : String) (default : α)
    (read? : Toml.Value → Option α) : Except ConfigurationError α :=
  match entries.lookup name.toList with
  | none => .ok default
  | some value =>
    match read? value with
    | some setting => .ok setting
    | none => .error (.wrongType name)

/-- Checks the settings whose names are not known: they are passed over, but their numbers are in
range. -/
def Toml.Entries.checkOthers (entries : Toml.Entries) (names : List String) :
    Except ConfigurationError Unit :=
  let isRefused (entry : Text × Toml.Value) : Bool :=
    !(names.map String.toList).contains entry.1 && !entry.2.fits
  match entries.find? isRefused with
  | some (name, _) => .error (.outOfRange name)
  | none => .ok ()

/-! ## Sections -/

/-- The names of the settings of diagrams. -/
def DiagramSettings.names : List String := ["type", "direction", "dark"]

/-- Reads the section of the settings of diagrams. -/
def DiagramSettings.ofEntries (entries : Toml.Entries) : Except ConfigurationError DiagramSettings := do
  entries.checkOthers names
  let kind ← entries.setting "type" none fun value => value.text?.map some
  let direction ← entries.setting "direction" none fun value => value.text?.map some
  let dark ← entries.setting "dark" false Toml.Value.flag?
  .ok ⟨kind, direction, dark⟩

/-- The names of the changes to the header. -/
def HeaderOverrides.names : List String := ["graph", "node", "edge"]

/-- Reads the section of the changes to the header. -/
def HeaderOverrides.ofEntries (entries : Toml.Entries) : Except ConfigurationError HeaderOverrides := do
  entries.checkOthers names
  let graph ← entries.setting "graph" [] Toml.Value.attributes?
  let node ← entries.setting "node" [] Toml.Value.attributes?
  let edge ← entries.setting "edge" [] Toml.Value.attributes?
  .ok ⟨graph, node, edge⟩

namespace Configuration

/-- The names of the settings of the layout engine. -/
def engineNames : List String := ["engine"]

/-- Reads the section of the layout engine: its name. -/
def engineOfEntries (entries : Toml.Entries) : Except ConfigurationError Text := do
  entries.checkOthers engineNames
  entries.setting "engine" ({} : Configuration).engine Toml.Value.text?

/-- The configuration that the sections of a document describe. -/
def ofEntries (entries : Toml.Entries) : Except ConfigurationError Configuration := do
  entries.checkOthers ["diagram", "dot_header", "render"]
  let diagram ← entries.setting "diagram" [] (Toml.Value.section? DiagramSettings.names)
  let header ← entries.setting "dot_header" [] (Toml.Value.section? HeaderOverrides.names)
  let render ← entries.setting "render" [] (Toml.Value.section? engineNames)
  .ok ⟨← DiagramSettings.ofEntries diagram, ← HeaderOverrides.ofEntries header,
    ← engineOfEntries render⟩

/-- **Reads a configuration**. -/
def ofText (source : Text) : Except ConfigurationError Configuration :=
  match Toml.read source with
  | .ok entries => ofEntries entries
  | .error error => .error (.document error)

end Configuration

end UmlSketch
