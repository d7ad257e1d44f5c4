import UmlSketch.Compilation
import UmlSketch.Proofs.Document.Labels
import UmlSketch.Proofs.Draft.Texts

/-! # Descriptions of documents
A document that compiles to a graph has a description with exactly the lines that are meant, and each
statement's attributes are read back from its line. Nothing that is written in the document can end a
string early, add an attribute or add a line. -/

namespace UmlSketch

/-- Whether a text **describes a graph** in a light or a dark palette: it has the expected lines, the
attributes of every statement are read back from its line, and each of their values is plain or one
string. -/
structure Graph.IsDescribedBy (graph : Graph) (dark : Bool) (description : Text) : Prop where
  /-- The lines, each of them ended. -/
  lines : Text.fields '\n' description = graph.expectedLines dark ++ [[]]
  /-- The attributes are read back. -/
  attributes : ∀ statement ∈ graph.statements, Attributes.ofLine? statement.line =
    some (statement.before, statement.attributes, statement.after)
  /-- No value ends early. -/
  values : ∀ statement ∈ graph.statements, ∀ entry ∈ statement.attributes,
    entry.2.IsPlain ∨ entry.2.IsString

/-- A graph whose statements keep to one line is described. -/
theorem Graph.IsOneLine.isDescribedBy {graph : Graph} (h : graph.IsOneLine) (dark : Bool) :
    graph.IsDescribedBy dark (graph.describe ⟨dark, {}⟩) where
  lines := Graph.fields_describe h dark
  attributes := fun statement hstatement => (h statement hstatement).ofLine?_line
  values := by
    intro statement hstatement entry hentry
    rcases ((h statement hstatement).isReadable entry hentry).2 with hplain | ⟨text, -, htext⟩
    · exact Or.inl hplain
    · rw [htext]
      exact Or.inr (Text.isString_quote text)

/-- No line of a document has a line break. -/
theorem Document.not_mem_text_of_mem_sourceLines {source : Text} {line : SourceLine}
    (h : line ∈ sourceLines source) : '\n' ∉ line.text := fun hmem =>
  absurd ((SourceLine.standsIn_of_mem_place h).isTerminator_eq_false '\n' hmem) (by decide)

/-- A document without instructions has an empty diagram; any other is compiled line by line, as the
kind of diagram in its settings. -/
theorem Document.eq_empty_or_compileLines {document : Document} {artifact : Artifact}
    (h : document.artifact = .ok artifact) :
    artifact = .empty ∨ ∃ kind : Kind,
      kind.compileLines document.options.direction document.lines = .ok artifact := by
  unfold Document.artifact at h
  split at h
  · exact .inl (Except.ok.inj h).symm
  split at h
  · cases h
  · rename_i kind hkind
    refine .inr ⟨kind, ?_⟩
    cases hcompile : kind.compileLines document.options.direction document.lines with
    | error error =>
      rw [hcompile] at h
      cases h
    | ok compiled =>
      rw [hcompile] at h
      exact congrArg Except.ok (Except.ok.inj h)

/-- A graph is the diagram of the instructions of a document. -/
theorem Document.compileLines_of_artifact {document : Document} {graph : Graph}
    (h : document.artifact = .ok (.graph graph)) :
    ∃ kind : Kind,
      kind.compileLines document.options.direction document.lines = .ok (.graph graph) :=
  (eq_empty_or_compileLines h).resolve_left nofun

/-- **A document that compiles to a graph is described** in either palette: its description has one
line for each statement, and every attribute is read back from there. -/
theorem isDescribedBy_of_compile {source : Text} {options : CompileOptions}
    {compilation : Compilation} {graph : Graph} (h : compile source options = .ok compilation)
    (hgraph : compilation.artifact = .graph graph) (dark : Bool) :
    graph.IsDescribedBy dark (graph.describe ⟨dark, {}⟩) := by
  have hartifact := artifact_of_compile h
  rw [hgraph] at hartifact
  obtain ⟨kind, hcompile⟩ := Document.compileLines_of_artifact hartifact
  have hlines : ∀ line ∈ (Document.scan source options).lines, '\n' ∉ line.text := fun line hline =>
    Document.not_mem_text_of_mem_sourceLines
      ((Document.comesFrom_scan source options).mem_sourceLines line hline)
  exact (Kind.isOneLine_of_compileLines hlines hcompile).isDescribedBy dark

/-- Quotes, brackets, separators and a backslash at the end, in a label and at an edge. -/
theorem isDescribedBy_of_compile_hostile :
    let source := "[A\", b=\"c;\\]\\\\]-\"], \\>[B]\r\n[note: \\\"]-[A\", b=\"c;\\]\\\\]".toList
    ∃ compilation graph, compile source {} = .ok compilation ∧
      compilation.artifact = .graph graph ∧ graph.statements.length = 5 ∧
      graph.IsDescribedBy true (graph.describe ⟨true, {}⟩) := by
  intro source
  have hcount : ((compile source {}).map (·.artifact)).map
      (fun artifact => artifact.graph?.map fun graph => graph.statements.length) = .ok (some 5) := by
    decide +kernel
  obtain ⟨graph, hgraph, hcount⟩ := Artifact.exists_of_map_graph? hcount
  cases hcompile : compile source {} with
  | error failure =>
    rw [hcompile] at hgraph
    cases hgraph
  | ok compilation =>
    rw [hcompile] at hgraph
    have hartifact := Except.ok.inj hgraph
    exact ⟨compilation, graph, rfl, hartifact, hcount,
      isDescribedBy_of_compile hcompile hartifact true⟩

end UmlSketch
