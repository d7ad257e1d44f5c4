import UmlSketch.Compilation
import UmlSketch.Proofs.Dialect.Reading
import UmlSketch.Proofs.Document.Directives

/-! # Labels of diagnostics
Every label of a diagnostic is the slice that its message is about: an error of notation marks the
token that it quotes, a warning the value or the key of the directive that it rejects. Since lines,
tokens, keys and values all stand where their spans say, the slices exist whatever terminators,
blanks and wide characters come before them. -/

namespace UmlSketch

/-! ## Warnings and directives -/

/-- What a warning is about: the value of a directive with a known key, or the key itself. -/
def DirectiveWarning.IsAbout (directive : Directive) : DirectiveWarning → Prop
  | .invalidKind value => directive.key.text = "type".toList ∧ value = directive.value
  | .invalidDirection value => directive.key.text = "direction".toList ∧ value = directive.value
  | .generate value => directive.key.text = "generate".toList ∧ value = directive.value
  | .unknownKey key =>
    directive.key.text ∉ ["type".toList, "direction".toList, "generate".toList] ∧
      key = directive.key

/-- A directive that is applied warns about itself. -/
theorem CompileOptions.isAbout_of_apply {options : CompileOptions} {directive : Directive}
    {warning : DirectiveWarning} (h : (options.apply directive).2 = some warning) :
    warning.IsAbout directive := by
  -- The key is compared as a string, but told as a text.
  have hkey (name : String) :
      String.ofList directive.key.text = name ↔ directive.key.text = name.toList := by
    rw [← String.toList_inj, String.toList_ofList]
  simp only [apply, hkey] at h
  split at h
  · rename_i htype
    split at h
    · cases h
    · cases h
      exact ⟨htype, rfl⟩
  rename_i htype
  split at h
  · rename_i hdirection
    split at h
    · cases h
    · cases h
      exact ⟨hdirection, rfl⟩
  rename_i hdirection
  split at h
  · rename_i hgenerate
    cases h
    exact ⟨hgenerate, rfl⟩
  · rename_i hgenerate
    cases h
    exact ⟨by simp only [List.mem_cons, not_or]; exact ⟨htype, hdirection, hgenerate, by simp⟩, rfl⟩

/-- Whether a directive is written in a line of a document. -/
def Directive.IsIn (directive : Directive) (source : Text) : Prop :=
  ∃ line ∈ Document.sourceLines source, directive.WrittenIn line

namespace Directive.IsIn

variable {directive : Directive} {source : Text}

/-- The key of a directive of a document stands in the document. -/
theorem standsIn_key (h : directive.IsIn source) : directive.key.StandsIn 0 source := by
  obtain ⟨line, hline, hwritten⟩ := h
  exact hwritten.standsIn_key.trans (Document.standsAt_of_mem_sourceLines hline)

/-- The value of a directive of a document stands in the document. -/
theorem standsIn_value (h : directive.IsIn source) : directive.value.StandsIn 0 source := by
  obtain ⟨line, hline, hwritten⟩ := h
  exact hwritten.standsIn_value.trans (Document.standsAt_of_mem_sourceLines hline)

end Directive.IsIn

/-! ## Taking a document apart -/

namespace Document

/-- Whether the instructions of a document are lines of a source and its warnings are about
directives of that source. -/
structure ComesFrom (document : Document) (source : Text) : Prop where
  /-- The instructions are lines of the source. -/
  mem_sourceLines : ∀ line ∈ document.lines, line ∈ sourceLines source
  /-- The warnings are about directives of the source. -/
  isAbout : ∀ warning ∈ document.warnings,
    ∃ directive : Directive, directive.IsIn source ∧ warning.IsAbout directive

/-- Taking up a line of the source keeps to the source. -/
theorem ComesFrom.addLine {document : Document} {source : Text} (h : document.ComesFrom source)
    {line : SourceLine} (hline : line ∈ sourceLines source) :
    (document.addLine line).ComesFrom source := by
  unfold Document.addLine
  split
  · split
    · exact h
    · rename_i directive hdirective
      -- A directive adds no instruction and at most one warning, which is about itself.
      refine ⟨h.mem_sourceLines, fun warning hwarning => ?_⟩
      rcases List.mem_append.mp hwarning with hwarning | hwarning
      · exact h.isAbout warning hwarning
      · exact ⟨directive, ⟨line, hline, Directive.writtenIn_of_ofLine? hdirective⟩,
          CompileOptions.isAbout_of_apply (Option.mem_toList.mp hwarning)⟩
  · refine ⟨fun other hother => ?_, h.isAbout⟩
    rcases List.mem_append.mp hother with hother | hother
    · exact h.mem_sourceLines other hother
    · rwa [List.mem_singleton.mp hother]

/-- Taking up lines of the source keeps to the source. -/
theorem ComesFrom.foldl_addLine {document : Document} {source : Text}
    (h : document.ComesFrom source) {lines : List SourceLine}
    (hlines : ∀ line ∈ lines, line ∈ sourceLines source) :
    (lines.foldl Document.addLine document).ComesFrom source := by
  induction lines generalizing document with
  | nil => exact h
  | cons line rest ih =>
    rw [List.forall_mem_cons] at hlines
    exact ih (h.addLine hlines.1) hlines.2

/-- A document that is taken apart keeps to its source. -/
theorem comesFrom_scan (source : Text) (options : CompileOptions) :
    (scan source options).ComesFrom source :=
  ComesFrom.foldl_addLine ⟨by simp, by simp⟩ fun _ hline => hline

end Document

/-! ## What a label marks -/

namespace Diagnostic

/-- What the label of a **diagnostic marks**: the token that an error of notation quotes, the value of
a directive that is rejected, or the key of one that is not known. Nothing else has labels. -/
def Marks (diagnostic : Diagnostic) (source : Text) (span : Span) (marked : Text) : Prop :=
  match diagnostic.code with
  | some .unrecognizedToken => diagnostic.message = "unrecognized token " ++ quoted marked
  | some .malformedAssociation => diagnostic.message = "malformed association " ++ quoted marked
  | some .malformedMessage => diagnostic.message = "malformed message " ++ quoted marked
  | some .invalidKindDirective =>
    ∃ directive : Directive, directive.IsIn source ∧ directive.key.text = "type".toList ∧
      directive.value = ⟨marked, span⟩
  | some .invalidDirectionDirective =>
    ∃ directive : Directive, directive.IsIn source ∧ directive.key.text = "direction".toList ∧
      directive.value = ⟨marked, span⟩
  | some .directiveWithoutEffect =>
    ∃ directive : Directive, directive.IsIn source ∧ directive.key.text = "generate".toList ∧
      directive.value = ⟨marked, span⟩
  | some .unknownDirective =>
    ∃ directive : Directive, directive.IsIn source ∧ directive.key = ⟨marked, span⟩
  | _ => False

/-- Whether the labels of a diagnostic are right about a document: the span of each is a non-empty
range of its bytes on the boundaries of characters, and marks what the diagnostic is about. Only the
lack of a kind of diagram has no place in the document. -/
structure WellLabelled (diagnostic : Diagnostic) (source : Text) : Prop where
  /-- Every label marks a slice of the document. -/
  marks : ∀ label ∈ diagnostic.labels, ∃ marked, Text.slice? source label.span = some marked ∧
    marked ≠ [] ∧ diagnostic.Marks source label.span marked
  /-- A label is missing only if there is no place. -/
  labels_eq_nil_iff : diagnostic.labels = [] ↔ diagnostic.code = some .missingKind

/-- A token of a document is marked where it stands. -/
theorem wellLabelled_of_labels {diagnostic : Diagnostic} {source : Text} {token : Token}
    {message : String} (hlabels : diagnostic.labels = [⟨token.span, message, true⟩])
    (hcode : diagnostic.code ≠ some .missingKind) (htoken : token.StandsIn 0 source)
    (hmarks : diagnostic.Marks source token.span token.text) : diagnostic.WellLabelled source where
  marks := by
    rw [hlabels]
    intro label hlabel
    rw [List.mem_singleton.mp hlabel]
    exact ⟨token.text, htoken.slice?_eq, htoken.ne_nil, hmarks⟩
  labels_eq_nil_iff := by
    rw [hlabels]
    exact iff_of_false (by simp) hcode

end Diagnostic

/-- The diagnostic for a rejected token of a document marks that token. -/
theorem TokenError.wellLabelled {error : TokenError} {source : Text}
    (h : error.token.StandsIn 0 source) : error.diagnostic.WellLabelled source := by
  cases error with
  | unrecognized | malformedAssociation | malformedMessage =>
    exact Diagnostic.wellLabelled_of_labels rfl (by simp [diagnostic]) h rfl

/-- The diagnostic for a directive of a document marks its value or its key. -/
theorem DirectiveWarning.wellLabelled {warning : DirectiveWarning} {directive : Directive}
    {source : Text} (hdirective : directive.IsIn source) (habout : warning.IsAbout directive) :
    warning.diagnostic.WellLabelled source := by
  cases warning with
  | invalidKind value | invalidDirection value | generate value =>
    obtain ⟨hkey, rfl⟩ := habout
    exact Diagnostic.wellLabelled_of_labels rfl (by simp [diagnostic]) hdirective.standsIn_value
      ⟨directive, hdirective, hkey, rfl⟩
  | unknownKey key =>
    obtain ⟨-, rfl⟩ := habout
    exact Diagnostic.wellLabelled_of_labels rfl (by simp [diagnostic]) hdirective.standsIn_key
      ⟨directive, hdirective, rfl⟩

/-! ## Compiling -/

/-- The diagnostics of a compilation, whether it fails or not. -/
def diagnosticsOf : Except CompileError Compilation → List Diagnostic
  | .ok compilation => compilation.warnings.map DirectiveWarning.diagnostic
  | .error error => error.diagnostics

/-- The warnings of a document are labelled in its source. -/
theorem Document.ComesFrom.wellLabelled {document : Document} {source : Text}
    (h : document.ComesFrom source) :
    ∀ diagnostic ∈ document.warnings.map DirectiveWarning.diagnostic,
      diagnostic.WellLabelled source := by
  intro diagnostic hdiagnostic
  obtain ⟨warning, hwarning, rfl⟩ := List.mem_map.mp hdiagnostic
  obtain ⟨directive, hdirective, habout⟩ := h.isAbout warning hwarning
  exact DirectiveWarning.wellLabelled hdirective habout

/-- The cause why a document does not compile is labelled in its source. -/
theorem Document.ComesFrom.wellLabelled_of_artifact {document : Document} {source : Text}
    (h : document.ComesFrom source) {cause : FatalError} (hcause : document.artifact = .error cause) :
    cause.diagnostic.WellLabelled source := by
  unfold artifact at hcause
  split at hcause
  · cases hcause
  split at hcause
  · cases hcause
    exact ⟨by simp [FatalError.diagnostic, SettingError.diagnostic],
      by simp [FatalError.diagnostic, SettingError.diagnostic]⟩
  · rename_i kind hkind
    cases hcompile : kind.compileLines document.options.direction document.lines with
    | ok artifact =>
      rw [hcompile] at hcause
      cases hcause
    | error error =>
      rw [hcompile] at hcause
      cases hcause
      -- The rejected token stands in a line, and the line in the document.
      obtain ⟨line, hline, htoken⟩ := Kind.exists_line_of_compileLines_error hcompile
      have hplace := standsAt_of_mem_sourceLines (h.mem_sourceLines line hline)
      exact TokenError.wellLabelled ((Token.standsIn_of_mem_tokenize htoken).trans hplace)

/-- **Every label is right.** The labels of every diagnostic of a compilation, failed or not, mark a
non-empty slice of the document on the boundaries of characters: the token that an error of notation
quotes, the value of a directive that is rejected, the key of one that is not known. -/
theorem wellLabelled_of_mem_compile (source : Text) (options : CompileOptions) :
    ∀ diagnostic ∈ diagnosticsOf (compile source options), diagnostic.WellLabelled source := by
  intro diagnostic hdiagnostic
  have hscan := Document.comesFrom_scan source options
  cases hartifact : (Document.scan source options).artifact with
  | ok artifact =>
    simp only [compile, hartifact, diagnosticsOf] at hdiagnostic
    exact hscan.wellLabelled diagnostic hdiagnostic
  | error cause =>
    simp only [compile, hartifact, diagnosticsOf, CompileError.diagnostics] at hdiagnostic
    -- The cause of a failure comes before the warnings.
    rcases List.mem_cons.mp hdiagnostic with rfl | hwarning
    · exact hscan.wellLabelled_of_artifact hartifact
    · exact hscan.wellLabelled diagnostic hwarning

/-- An association with two separators behind a directive, wide blanks and both terminators. -/
theorem wellLabelled_of_mem_compile_wide :
    let source := "\u3000// \x7btype:tree\x7d\r\n\u2003[\u00e9] 1-2-3\u00a0[B]".toList
    let error := TokenError.malformedAssociation ⟨"1-2-3".toList, .between 27 32⟩
    error.diagnostic ∈ diagnosticsOf (compile source {}) ∧
      error.diagnostic.WellLabelled source := by
  intro source error
  have hmem : error.diagnostic ∈ diagnosticsOf (compile source {}) := by decide +kernel
  exact ⟨hmem, wellLabelled_of_mem_compile source {} error.diagnostic hmem⟩

end UmlSketch
