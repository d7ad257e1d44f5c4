import UmlSketch.Compilation
import UmlSketch.Proofs.Dialect.Reading
import UmlSketch.Proofs.Document.Settings

/-! # Documents that do not compile
A document without instructions always compiles. Any other document compiles if a kind of diagram is
known and its dialect accepts every token, each judged by itself. If not, the first diagnostic tells
why, and the warnings about directives follow it as they would without the failure
(`verdict_compile`). -/

namespace UmlSketch

/-! ## Fatal errors -/

/-- The diagnostic for a cause of failure is an error. -/
theorem FatalError.isError_diagnostic (cause : FatalError) : cause.diagnostic.isError = true := by
  cases cause with
  | setting error => cases error <;> rfl
  | token error => cases error <;> rfl

/-- The error that counts among the diagnostics of a failure is the first of them. -/
theorem CompileError.primary?_diagnostics (error : CompileError) :
    Diagnostic.primary? error.diagnostics = error.diagnostics.head? := by
  rw [Diagnostic.primary?, diagnostics, List.find?_cons_of_pos error.cause.isError_diagnostic]
  rfl

namespace Document

/-! ## The diagram of a document -/

variable {source : Text} {options : CompileOptions} {cause : FatalError}

/-- A source is drawn by the kind of diagram in its settings, unless it has no instructions. -/
theorem artifact_scan (source : Text) (options : CompileOptions) :
    (scan source options).artifact =
      if instructions source = [] then .ok .empty
      else
        match (settings source options).kind with
        | none => .error (.setting .missingKind)
        | some kind =>
          (kind.compileLines (settings source options).direction (instructions source)).mapError
            .token := by
  rw [scan_eq]
  rfl

/-- If no kind of diagram is known, only a source with instructions fails. -/
theorem artifact_eq_error_iff_of_none (hkind : (settings source options).kind = none) :
    (scan source options).artifact = .error cause ↔
      instructions source ≠ [] ∧ cause = .setting .missingKind := by
  rw [artifact_scan, hkind]
  split
  · rename_i hlines
    simp [hlines]
  · rename_i hlines
    simp [hlines, eq_comm]

/-- If a kind of diagram is known, a source fails if a token is rejected, with the error of the first
one. -/
theorem artifact_eq_error_iff_of_some {kind : Kind}
    (hkind : (settings source options).kind = some kind) :
    (scan source options).artifact = .error cause ↔
      ∃ error, cause = .token error ∧
        kind.compileLines (settings source options).direction (instructions source) =
          .error error := by
  rw [artifact_scan, hkind]
  split
  · rename_i hlines
    rw [hlines]
    constructor
    · intro h
      cases h
    · rintro ⟨error, -, h⟩
      cases h
  · exact mapError_eq_error_iff

end Document

/-! ## The end of a compilation -/

/-- Compiles a list of lines **in turn**: each line is read only when those before it are drawn. -/
def Kind.compileInTurn (kind : Kind) (direction : Direction) (lines : List SourceLine) :
    Except TokenError Artifact :=
  match kind.graphDialect? with
  | some dialect =>
    (lines.foldlM (fun draft line => (kind.parseLine line).map (dialect.addLine draft))
      (Draft.empty ⟨dialect.rankSep, direction⟩)).map fun draft => .graph draft.graph
  | none =>
    (lines.foldlM (fun script line => (kind.parseLine line).map script.addLine)
      Sequences.Script.empty).map fun script => .sequence script.model

/-- What has been drawn before a line makes no difference to whether the line is accepted. -/
theorem Kind.compileInTurn_eq (kind : Kind) (direction : Direction) (lines : List SourceLine) :
    kind.compileInTurn direction lines = kind.compileLines direction lines := by
  cases hdialect : kind.graphDialect? with
  | some dialect =>
    simp only [compileInTurn, compileLines, hdialect, foldlM_map_eq]
    cases lines.mapM kind.parseLine with
    | error failure => rfl
    | ok read => simp only [Except.map, artifactOf, hdialect, GraphDialect.graphOf]
  | none =>
    simp only [compileInTurn, compileLines, hdialect, foldlM_map_eq]
    cases lines.mapM kind.parseLine with
    | error failure => rfl
    | ok read => simp only [Except.map, artifactOf, hdialect, Sequences.modelOf]

/-- How the compilation of a source may end: with failure only for want of a kind of diagram or
because of a token, and with the same warnings in any case. -/
structure Verdict (source : Text) (options : CompileOptions)
    (result : Except CompileError Compilation) : Prop where
  /-- A source fails if it has instructions, and no kind of diagram is known or a line is rejected. -/
  fails_iff : (∃ error, result = .error error) ↔
    Document.instructions source ≠ [] ∧
      ((options.kind = none ∧ ∀ directive ∈ Document.directives source, directive.kind? = none) ∨
        ∃ kind, (Document.settings source options).kind = some kind ∧
          ∃ line ∈ Document.instructions source, ∃ error, kind.parseLine line = .error error)
  /-- Reading and drawing the instructions in turn comes to the same. -/
  in_turn : ∀ kind, (Document.settings source options).kind = some kind →
    Document.instructions source ≠ [] →
    (result.map Compilation.artifact).mapError CompileError.cause =
      (kind.compileInTurn (Document.settings source options).direction
        (Document.instructions source)).mapError .token
  /-- If no kind of diagram is known, the failure says so. -/
  cause_of_none : ∀ error, result = .error error → (Document.settings source options).kind = none →
    error.cause = .setting .missingKind
  /-- If one is known, the failure is about the first token of the document that is rejected. -/
  cause_of_some : ∀ error, result = .error error →
    ∀ kind, (Document.settings source options).kind = some kind →
      ∃ rejected, error.cause = .token rejected ∧
        kind.RejectsFirst ((Document.scan source options).tokens kind.openers) rejected
  /-- The diagnostics of a failure are that of its cause and those of the warnings, in order. -/
  diagnostics_of_error : ∀ error, result = .error error →
    error.diagnostics =
      error.cause.diagnostic :: (Document.warningsOf source).map DirectiveWarning.diagnostic
  /-- The error that counts is the first of them. -/
  primary?_of_error : ∀ error, result = .error error →
    Diagnostic.primary? error.diagnostics = some error.cause.diagnostic
  /-- Without a failure the warnings are the same. -/
  warnings_of_ok : ∀ compilation, result = .ok compilation →
    compilation.warnings = Document.warningsOf source

/-- A source fails with the cause why it describes no diagram, and with its warnings. -/
theorem compile_eq_error_iff {source : Text} {options : CompileOptions} {error : CompileError} :
    compile source options = .error error ↔
      (Document.scan source options).artifact = .error error.cause ∧
        error.warnings = Document.warningsOf source := by
  have hwarnings : (Document.scan source options).warnings = Document.warningsOf source := by
    rw [Document.scan_eq]
  obtain ⟨cause, warnings⟩ := error
  simp only [compile, hwarnings]
  split
  · rename_i hartifact
    simp [hartifact]
  · rename_i hartifact
    simp [hartifact, eq_comm]

/-- **How a compilation ends.** The tokens of a document are accepted or rejected regardless of what
has been drawn before them, and the first one that is rejected is told, before all warnings. -/
theorem verdict_compile (source : Text) (options : CompileOptions) :
    Verdict source options (compile source options) where
  fails_iff := by
    rw [← Document.kind_settings_eq_none_iff]
    constructor
    · rintro ⟨error, h⟩
      have hartifact := (compile_eq_error_iff.mp h).1
      cases hkind : (Document.settings source options).kind with
      | none =>
        obtain ⟨hlines, -⟩ := (Document.artifact_eq_error_iff_of_none hkind).mp hartifact
        exact ⟨hlines, Or.inl rfl⟩
      | some kind =>
        obtain ⟨rejected, -, hrejected⟩ :=
          (Document.artifact_eq_error_iff_of_some hkind).mp hartifact
        obtain ⟨line, hline, hparse⟩ := Kind.exists_compileLines_eq_error_iff.mp ⟨_, hrejected⟩
        exact ⟨List.ne_nil_of_mem hline, Or.inr ⟨kind, rfl, line, hline, hparse⟩⟩
    · rintro ⟨hlines, hkind | ⟨kind, hkind, hline⟩⟩
      · exact ⟨⟨_, _⟩, compile_eq_error_iff.mpr
          ⟨(Document.artifact_eq_error_iff_of_none hkind).mpr ⟨hlines, rfl⟩, rfl⟩⟩
      · obtain ⟨rejected, hrejected⟩ := Kind.exists_compileLines_eq_error_iff.mpr hline
        exact ⟨⟨_, _⟩, compile_eq_error_iff.mpr
          ⟨(Document.artifact_eq_error_iff_of_some hkind).mpr ⟨rejected, rfl, hrejected⟩, rfl⟩⟩
  in_turn kind hkind hlines := by
    rw [artifact_compile, Document.artifact_scan, if_neg hlines, hkind, Kind.compileInTurn_eq]
  cause_of_none error h hkind := by
    have hartifact := (compile_eq_error_iff.mp h).1
    exact ((Document.artifact_eq_error_iff_of_none hkind).mp hartifact).2
  cause_of_some error h kind hkind := by
    have hartifact := (compile_eq_error_iff.mp h).1
    obtain ⟨rejected, hcause, hlines⟩ :=
      (Document.artifact_eq_error_iff_of_some hkind).mp hartifact
    refine ⟨rejected, hcause, ?_⟩
    rw [Document.tokens, Document.scan_eq]
    exact Kind.rejectsFirst_iff.mp hlines
  diagnostics_of_error error h := by
    rw [CompileError.diagnostics, (compile_eq_error_iff.mp h).2]
  primary?_of_error error h := error.primary?_diagnostics
  warnings_of_ok compilation h := by
    unfold compile at h
    rw [Document.scan_eq] at h
    simp only at h
    split at h
    · cases h
      rfl
    · cases h

end UmlSketch
