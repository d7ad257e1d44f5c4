import UmlSketch.Builder

/-! # Reports
A failure is reported to the user as one report per diagnostic, or as a single one if it has none. A
report has a code, help, and labels that point into the document; a label that marks a cause also
says what the code stands for. -/

namespace UmlSketch

/-- A label of a report. -/
structure ReportLabel where
  /-- What the label says. -/
  text : String
  /-- The position of the first byte. -/
  offset : Nat
  /-- The number of bytes. -/
  length : Nat
  /-- Whether the label marks the cause. -/
  isPrimary : Bool
  deriving DecidableEq, Repr

/-- A **report** on a failure. -/
structure Report where
  /-- What is wrong. -/
  message : String
  /-- The code of the diagnostic. -/
  diagnosticCode : Option Code
  /-- The code of the report. -/
  code : Option String
  /-- How grave it is. -/
  severity : Severity
  /-- What can be done. -/
  help : Option String
  /-- Whether a part of the document is shown. -/
  hasSource : Bool
  /-- The labels, if there are any. -/
  labels : Option (List ReportLabel)
  deriving DecidableEq, Repr

/-- The help for a diagnostic that has none of its own. -/
def Code.help (code : Code) : String :=
  match code.category, code with
  | .grammar, .malformedMessage =>
    "a message ends in `>`, `.>` or `>>`, optionally followed by `(` or `)`"
  | .grammar, _ => "a `[`, `-` or `>` that is part of a name needs a `\\` before it"
  | .configuration, .invalidDirection => "valid directions are TB, LR and RL"
  | .configuration, _ =>
    "valid diagram types are " ++ ", ".intercalate (Kind.all.map Kind.name)
  | .directive, .directiveWithoutEffect =>
    "output is always generated, the directive can be removed"
  | .directive, _ =>
    "directives look like `// \x7btype:class\x7d` or `// \x7bdirection:leftToRight\x7d`"

namespace Report

/-- A label of a diagnostic as a report shows it. -/
def labelOf (code : Option Code) (label : DiagnosticLabel) : ReportLabel :=
  let text :=
    match label.isPrimary, code with
    | true, some code =>
      if label.message = "" then code.description
      else label.message ++ " (" ++ code.description ++ ")"
    | _, _ => label.message
  ⟨text, label.span.start, label.span.length, label.isPrimary⟩

/-- The code of a report on a diagnostic. -/
def codeOf (code : Code) : String := "yuml::" ++ code.category.name ++ "::" ++ code.name

/-- The report on a diagnostic about a document. -/
def ofDiagnostic (source : Text) (diagnostic : Diagnostic) : Report where
  message := diagnostic.message
  diagnosticCode := diagnostic.code
  code := diagnostic.code.map codeOf
  severity := diagnostic.severity
  help := diagnostic.help.or (diagnostic.code.map Code.help)
  hasSource := source ≠ []
  labels :=
    if source = [] ∨ diagnostic.labels = [] then none
    else some (diagnostic.labels.map (labelOf diagnostic.code))

/-- The code and the help of a report on a failure without diagnostics. -/
def codeAndHelp : Failure → Option String × Option String
  | .file _ | .missingConfiguration _ | .configuration _ _ => (some "yuml::io", none)
  | .render _ =>
    (some "yuml::render", some "install Graphviz or pass `--dot` to write the DOT document")
  | .notAGraph => (some "yuml::not_a_graph", none)
  | .setting _ | .document _ _ => (none, none)

/-- The reports on a failure. -/
def ofFailure (failure : Failure) : List Report :=
  match failure.diagnostics? with
  | some (diagnostics, source) => diagnostics.map (ofDiagnostic source)
  | none =>
    let (code, help) := codeAndHelp failure
    [{ message := failure.message
       diagnosticCode := none
       code
       severity := .error
       help
       hasSource := false
       labels := none }]

/-- A report in lines: the severity, the code and the message, then the labels and the help. -/
def display (report : Report) : String :=
  let code := (report.code.map fun code => "[" ++ code ++ "]").getD ""
  let labels := (report.labels.getD []).map fun label =>
    "\n  at byte " ++ toString label.offset ++ ": " ++ label.text
  let help := (report.help.map fun help => "\n  help: " ++ help).getD ""
  report.severity.name ++ code ++ ": " ++ report.message ++ String.join labels ++ help

end Report

end UmlSketch
