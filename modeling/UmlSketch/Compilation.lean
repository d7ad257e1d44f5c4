import UmlSketch.Document

/-! # Compilation
A document is compiled into the diagram that its instructions describe. Compilation fails if no kind of
diagram is known or if a token is rejected; the failure carries that error and all warnings. -/

namespace UmlSketch

/-- A compiled document. -/
structure Compilation where
  /-- The kind of diagram; it may be unknown if there are no instructions. -/
  kind : Option Kind
  /-- The direction of the ranks. -/
  direction : Direction
  /-- The diagram. -/
  artifact : Artifact
  /-- The warnings about directives, in order. -/
  warnings : List DirectiveWarning
  deriving DecidableEq, Repr

/-- The **cause** why a document does not compile. -/
inductive FatalError
  /-- The settings are rejected. -/
  | setting (error : SettingError)
  /-- A token is rejected. -/
  | token (error : TokenError)
  deriving DecidableEq, Repr

/-- The diagnostic for a cause. -/
def FatalError.diagnostic : FatalError → Diagnostic
  | .setting error => error.diagnostic
  | .token error => error.diagnostic

/-- A failure of compilation. -/
structure CompileError where
  /-- The cause. -/
  cause : FatalError
  /-- The warnings about directives, in order. -/
  warnings : List DirectiveWarning := []
  deriving DecidableEq, Repr

/-- The diagnostics of a failure: the cause first, then the warnings. -/
def CompileError.diagnostics (error : CompileError) : List Diagnostic :=
  error.cause.diagnostic :: error.warnings.map DirectiveWarning.diagnostic

/-- The diagram that the instructions of a document describe. -/
def Document.artifact (document : Document) : Except FatalError Artifact :=
  if document.lines = [] then .ok .empty
  else
    match document.options.kind with
    | none => .error (.setting .missingKind)
    | some kind =>
      (kind.compileLines document.options.direction document.lines).mapError .token

/-- Compiles a document. -/
def compile (source : Text) (options : CompileOptions) : Except CompileError Compilation :=
  let document := Document.scan source options
  match document.artifact with
  | .ok artifact =>
    .ok ⟨document.options.kind, document.options.direction, artifact, document.warnings⟩
  | .error cause => .error ⟨cause, document.warnings⟩

/-- The diagram of a compilation is that of the document, and so is the cause of its failure. -/
theorem artifact_compile (source : Text) (options : CompileOptions) :
    ((compile source options).map Compilation.artifact).mapError CompileError.cause =
      (Document.scan source options).artifact := by
  simp only [compile]
  split
  · rename_i artifact hartifact
    rw [hartifact]
    rfl
  · rename_i cause hartifact
    rw [hartifact]
    rfl

/-- A document compiles to the diagram of its instructions. -/
theorem artifact_of_compile {source : Text} {options : CompileOptions} {compilation : Compilation}
    (h : compile source options = .ok compilation) :
    (Document.scan source options).artifact = .ok compilation.artifact := by
  rw [← artifact_compile, h]
  rfl

/-- A document is compiled as the kind of diagram in its settings. -/
theorem kind_of_compile {source : Text} {options : CompileOptions} {compilation : Compilation}
    (h : compile source options = .ok compilation) :
    compilation.kind = (Document.scan source options).options.kind := by
  simp only [compile] at h
  split at h <;> cases h
  rfl

end UmlSketch
