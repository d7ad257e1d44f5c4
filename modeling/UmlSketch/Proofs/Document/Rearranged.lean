import UmlSketch.Compilation
import UmlSketch.Proofs.Dialect.Unplaced
import UmlSketch.Proofs.Document.Settings

/-! # Documents that are laid out anew
The blank lines, the comments, the indentation and the terminators of a document are the author's
choice, and so are the places of the directives. What is compiled are the texts of the instructions,
the kind and the direction: two documents that agree in these give the same diagram, or fail for the
same cause, which may only stand in another place (`artifact_eq_or_cause_eq`). -/

namespace UmlSketch

/-! ## Causes without places -/

/-- A remark without its place. -/
def DiagnosticLabel.unplaced (label : DiagnosticLabel) : DiagnosticLabel :=
  { label with span := .empty }

/-- A **diagnostic without the places** of its labels. -/
def Diagnostic.unplaced (diagnostic : Diagnostic) : Diagnostic :=
  { diagnostic with labels := diagnostic.labels.map DiagnosticLabel.unplaced }

/-- A cause without its place. -/
def FatalError.unplaced : FatalError → FatalError
  | .setting error => .setting error
  | .token error => .token error.unplaced

/-- A cause without its place is described by the same diagnostic, but for the places of the
labels. -/
theorem FatalError.diagnostic_unplaced (cause : FatalError) :
    cause.unplaced.diagnostic = cause.diagnostic.unplaced := by
  cases cause with
  | setting error => cases error <;> rfl
  | token error => cases error <;> rfl

/-! ## Documents -/

namespace Document

/-- The diagram of instructions that are told by their **texts**. -/
def artifactOfTexts (kind? : Option Kind) (direction : Direction) (texts : List Text) :
    Except FatalError Artifact :=
  if texts = [] then .ok .empty
  else
    match kind? with
    | none => .error (.setting .missingKind)
    | some kind => ((texts.mapM kind.parseText).map (kind.artifactOf direction)).mapError .token

/-- Only the cause of a failure tells where the instructions stand. -/
theorem artifactOfTexts_eq (document : Document) :
    artifactOfTexts document.options.kind document.options.direction
        (document.lines.map SourceLine.text) =
      document.artifact.mapError FatalError.unplaced := by
  unfold artifactOfTexts artifact
  by_cases hlines : document.lines = []
  · rw [if_pos (List.map_eq_nil_iff.mpr hlines), if_pos hlines]
    rfl
  · rw [if_neg fun h => hlines (List.map_eq_nil_iff.mp h), if_neg hlines]
    cases document.options.kind with
    | none => rfl
    | some kind =>
      simp only [Kind.compileTexts_eq]
      cases kind.compileLines document.options.direction document.lines <;> rfl

/-- What two documents with the same instructions and settings describe: the same diagram, or none for
causes that are the same but for their places. -/
theorem artifact_cases {first second : Document}
    (htexts : first.lines.map SourceLine.text = second.lines.map SourceLine.text)
    (hkind : first.options.kind = second.options.kind)
    (hdirection : first.options.direction = second.options.direction) :
    (∃ artifact, first.artifact = .ok artifact ∧ second.artifact = .ok artifact) ∨
      ∃ cause other, first.artifact = .error cause ∧ second.artifact = .error other ∧
        cause.unplaced = other.unplaced := by
  -- Either side can be told by the texts and the settings, and in these the documents agree.
  have h : first.artifact.mapError FatalError.unplaced =
      second.artifact.mapError FatalError.unplaced := by
    rw [← artifactOfTexts_eq, ← artifactOfTexts_eq, htexts, hkind, hdirection]
  cases hfirst : first.artifact <;> cases hsecond : second.artifact <;> rw [hfirst, hsecond] at h
  case ok.ok artifact other =>
    cases h
    exact Or.inl ⟨artifact, rfl, rfl⟩
  case error.error cause other => exact Or.inr ⟨cause, other, rfl, rfl, Except.error.inj h⟩
  all_goals cases h

end Document

/-- **The layout of a document does not matter.** If two documents have the same instructions, the same
kind and the same direction, then both compile to the same diagram, or both fail and their causes are
described by the same diagnostic, but for the places of its labels. -/
theorem artifact_eq_or_cause_eq (first second : Text) (options : CompileOptions)
    (htexts : (Document.scan first options).lines.map SourceLine.text =
      (Document.scan second options).lines.map SourceLine.text)
    (hkind : (Document.scan first options).options.kind =
      (Document.scan second options).options.kind)
    (hdirection : (Document.scan first options).options.direction =
      (Document.scan second options).options.direction) :
    (∃ compilation other, compile first options = .ok compilation ∧
        compile second options = .ok other ∧ compilation.artifact = other.artifact) ∨
      ∃ failure other, compile first options = .error failure ∧
        compile second options = .error other ∧
        failure.cause.diagnostic.unplaced = other.cause.diagnostic.unplaced := by
  unfold compile
  rcases Document.artifact_cases htexts hkind hdirection with
    ⟨artifact, hfirst, hsecond⟩ | ⟨cause, other, hfirst, hsecond, hcause⟩
  · left
    simp only [hfirst, hsecond]
    exact ⟨_, _, rfl, rfl, rfl⟩
  · right
    simp only [hfirst, hsecond]
    refine ⟨_, _, rfl, rfl, ?_⟩
    rw [← FatalError.diagnostic_unplaced, hcause, FatalError.diagnostic_unplaced]

/-- A document whose directive comes first, and one with a blank line, a comment, blanks around the
instruction and the directive at the end. -/
theorem artifact_eq_or_cause_eq_directives :
    let first : Text := "// \x7btype:sequence\x7d\n[A]>[B]".toList
    let second : Text := "\r\n// Calls\n  [A]>[B]\t\r// \x7btype:sequence\x7d".toList
    (Document.scan first {}).lines.map SourceLine.text = ["[A]>[B]".toList] ∧
      ((∃ compilation other, compile first {} = .ok compilation ∧ compile second {} = .ok other ∧
          compilation.artifact = other.artifact) ∨
        ∃ failure other, compile first {} = .error failure ∧ compile second {} = .error other ∧
          failure.cause.diagnostic.unplaced = other.cause.diagnostic.unplaced) :=
  ⟨by decide +kernel, artifact_eq_or_cause_eq _ _ {} (by decide +kernel) (by decide +kernel)
    (by decide +kernel)⟩

end UmlSketch
