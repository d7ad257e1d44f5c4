import UmlSketch.Proofs.Bracket
import UmlSketch.Proofs.Description.Documents
import UmlSketch.Proofs.Draft.Nodes
import UmlSketch.Proofs.Fill
import UmlSketch.Proofs.Sequence.Scripts

/-! # Fills of documents
A color that is written in a document ends up, without quotes around it, in the description of a graph
or in the style of a drawing. It cannot break out of either: a known color is written as `#` and six
hexadecimal digits, and of an unknown one the reader of brackets has let only letters and digits pass
(`isWellFormed_of_compile`). -/

namespace UmlSketch

/-! ## Fills -/

namespace Fill

/-- Whether a fill is **well-formed**: its color is a code, and then there is a color for the text on
it, or its color is a name, and then there is none. -/
def IsWellFormed (fill : Fill) : Prop :=
  (Color.IsCode fill.color ∧ fill.textColor.isSome = true) ∨
    (Color.IsName fill.color ∧ fill.textColor = none)

/-- The characters that could end the place where a color is written. -/
def delimiters : Text := ['"', '\x27', ';', ' ', '<', '>']

/-- A well-formed fill has no delimiter in its color. -/
theorem IsWellFormed.not_mem_delimiters {fill : Fill} (h : fill.IsWellFormed) :
    ∀ c ∈ fill.color, c ∉ delimiters := by
  have hcode : delimiters.all (fun c => c ≠ '#' && !Color.isUpperHexDigit c) = true := by decide
  have hname : delimiters.all (fun c => !c.isAlpha && !CharClass.decimalNumber.contains c) = true := by
    decide +kernel
  intro c hc hdelimiter
  have hcode := List.all_eq_true.mp hcode c hdelimiter
  have hname := List.all_eq_true.mp hname c hdelimiter
  rcases h with ⟨⟨digits, hcolor, -, hdigits⟩, -⟩ | ⟨⟨letters, digits, hcolor, -, hletters, hdigits⟩, -⟩
  · rw [hcolor] at hc
    rcases List.mem_cons.mp hc with rfl | hc
    · simp at hcode
    · simp [hdigits c hc] at hcode
  · rw [hcolor] at hc
    rcases List.mem_append.mp hc with hc | hc
    · simp [hletters c hc] at hname
    · simp [hdigits c hc] at hname

/-- With every library that reads hexadecimal colors, the specification of a color in a bracket gives a
well-formed fill. -/
theorem isWellFormed_ofSpecBy {library : Color.Library} (hlibrary : library.ReadsHex) {spec : Text}
    (h : Color.IsSpec spec) : (ofSpecBy library spec).IsWellFormed := by
  unfold ofSpecBy
  cases hcolor : Color.ofSpecBy? library spec with
  | some color => exact .inl ⟨Color.isCode_toHex color, rfl⟩
  | none =>
    have htrim : Text.trim spec = spec := Text.trim_of_not_isBlank h.isBlank_eq_false
    rcases h with hname | ⟨digits, rfl, hlength, hdigits⟩
    · exact .inr ⟨htrim.symm ▸ hname, rfl⟩
    · -- Six hexadecimal digits are known.
      have hsome := hlibrary.isSome_ofSpecBy? hlength hdigits
      rw [hcolor] at hsome
      cases hsome

/-- The specification of a color in a bracket gives a well-formed fill. -/
theorem isWellFormed_ofSpec {spec : Text} (h : Color.IsSpec spec) : (ofSpec spec).IsWellFormed :=
  ofSpec_eq ▸ isWellFormed_ofSpecBy Color.readsHex_ofCss? h

end Fill

/-! ## Brackets -/

/-- The color at the end of a bracket's content gives a well-formed fill. -/
theorem BracketContent.isWellFormed_of_mem_fill {content : Text} {allowNote : Bool} :
    ∀ fill ∈ (ofText content allowNote).fill, fill.IsWellFormed := by
  rw [fill_ofText]
  intro fill hfill
  obtain ⟨⟨before, spec⟩, hsplit, rfl⟩ := Option.map_eq_some_iff.mp hfill
  exact Fill.isWellFormed_ofSpec (splitColor?_eq_some_iff.mp hsplit).2.1

/-- Whether an expression that is a bracket has a well-formed fill, if it has one. -/
def Expr.HasWellFormedFill : Expr → Prop
  | .node bracket => ∀ fill ∈ bracket.fill, fill.IsWellFormed
  | .edge _ | .signal _ => True

namespace Reading

theorem hasWellFormedFill_recordOrNote (content : Text) (span : Span) :
    (recordOrNote content span).HasWellFormedFill := BracketContent.isWellFormed_of_mem_fill

theorem hasWellFormedFill_bareNode (role : Role) (content : Text) (span : Span) :
    (bareNode role content span).HasWellFormedFill := fun _ hfill => by cases hfill

theorem hasWellFormedFill_of_dash? {token : Token} {line : LineStyle} {expr : Expr}
    (h : dash? token line = some expr) : expr.HasWellFormedFill := by
  unfold dash? at h
  split at h <;> cases h
  trivial

/-- A reading of a part of a token has a well-formed fill if that of every text has one. -/
theorem hasWellFormedFill_of_map {α : Type} {part : Option α} {read : α → Expr} {expr : Expr}
    (h : part.map read = some expr) (hread : ∀ found, (read found).HasWellFormedFill) :
    expr.HasWellFormedFill := by
  obtain ⟨found, -, rfl⟩ := Option.map_eq_some_iff.mp h
  exact hread found

end Reading

namespace Kind

/-- **An expression that is read off a token** has a well-formed fill, if it has one. -/
theorem hasWellFormedFill_of_readToken {kind : Kind} {token : Token} {expr : Expr}
    (h : kind.readToken token = .ok expr) : expr.HasWellFormedFill := by
  have hrecord {part : Option Text} {other : Expr}
      (hother : part.map (fun content => Reading.recordOrNote content token.span) = some other) :
      other.HasWellFormedFill :=
    Reading.hasWellFormedFill_of_map hother fun content =>
      Reading.hasWellFormedFill_recordOrNote content token.span
  have hbare {part : Option Text} {role : Role} {other : Expr}
      (hother : part.map (fun content => Reading.bareNode role content token.span) = some other) :
      other.HasWellFormedFill :=
    Reading.hasWellFormedFill_of_map hother fun content =>
      Reading.hasWellFormedFill_bareNode role content token.span
  have hedge {α : Type} {part : Option α} {read : α → EdgeExpr} {other : Expr}
      (hother : part.map (fun found => Expr.edge (read found)) = some other) :
      other.HasWellFormedFill :=
    Reading.hasWellFormedFill_of_map hother fun _ => trivial
  cases kind with
  | classes =>
    simp only [readToken, Classes.readToken] at h
    split at h
    · cases h
      exact Reading.hasWellFormedFill_recordOrNote _ token.span
    split at h
    · cases h
      trivial
    split at h
    · unfold Classes.association at h
      simp only at h
      split at h <;> cases h
      trivial
    · cases h
  | useCase =>
    refine Reading.of_firstOf (P := Expr.HasWellFormedFill) h ?_
    simp only [List.forall_mem_cons]
    exact ⟨fun _ => hrecord, fun _ => hbare, fun _ => hedge, by simp⟩
  | activity =>
    refine Reading.of_firstOf (P := Expr.HasWellFormedFill) h ?_
    simp only [List.forall_mem_cons]
    exact ⟨fun _ => hrecord, fun _ => hbare, fun _ => hbare, fun _ => hedge,
      fun _ => Reading.hasWellFormedFill_of_dash?, by simp⟩
  | state =>
    refine Reading.of_firstOf (P := Expr.HasWellFormedFill) h ?_
    simp only [List.forall_mem_cons]
    exact ⟨fun _ => hrecord, fun _ => hedge, fun _ => Reading.hasWellFormedFill_of_dash?, by simp⟩
  | package =>
    refine Reading.of_firstOf (P := Expr.HasWellFormedFill) h ?_
    simp only [List.forall_mem_cons]
    exact ⟨fun _ => hrecord, fun _ => Reading.hasWellFormedFill_of_dash?, fun _ => hedge, by simp⟩
  | deployment =>
    refine Reading.of_firstOf (P := Expr.HasWellFormedFill) h ?_
    simp only [List.forall_mem_cons]
    exact ⟨fun _ => hrecord, fun _ => hedge, by simp⟩
  | sequence =>
    simp only [readToken, Sequences.readToken] at h
    split at h
    · cases h
      exact Reading.hasWellFormedFill_recordOrNote _ token.span
    split at h
    · unfold Sequences.signal at h
      simp only at h
      split at h <;> cases h
      trivial
    · split at h <;> cases h
      trivial

/-- The brackets of lines have well-formed fills. -/
theorem isWellFormed_of_mem_brackets {kind : Kind} {lines : List SourceLine}
    {read : List (List Expr)} (h : lines.mapM kind.parseLine = .ok read) {bracket : NodeExpr}
    (hbracket : bracket ∈ Expr.brackets read) : ∀ fill ∈ bracket.fill, fill.IsWellFormed := by
  obtain ⟨token, hread⟩ := exists_token_of_mem_brackets h hbracket
  exact hasWellFormedFill_of_readToken hread

end Kind

/-! ## Nodes -/

namespace Node

@[simp] theorem fill_withStyle (node : Node) (style : NodeStyle) :
    (node.withStyle style).fill = node.fill := by
  unfold withStyle
  split <;> rfl

@[simp] theorem fill_withFill (node : Node) (fill : Option Fill) :
    (node.withFill fill).fill = fill.or node.fill := by
  cases fill <;> rfl

end Node

/-- A node is drawn with the fill of its bracket or with none. -/
theorem Kind.fill_draw {kind : Kind} {dialect : GraphDialect}
    (hdialect : kind.graphDialect? = some dialect) (direction : Direction) (id : NodeId)
    (bracket : NodeExpr) :
    (dialect.draw direction id bracket).fill = bracket.fill ∨
      (dialect.draw direction id bracket).fill = none := by
  have hterminal (box : Node) (hbox : box.fill = bracket.fill) :
      ((Boxes.terminal? id bracket.label).getD box).fill = bracket.fill ∨
        ((Boxes.terminal? id bracket.label).getD box).fill = none := by
    unfold Boxes.terminal?
    split
    · exact .inr rfl
    split
    · exact .inr rfl
    · exact .inl hbox
  cases kind <;> cases hdialect
  case classes =>
    show (Classes.draw direction id bracket).fill = _ ∨ (Classes.draw direction id bracket).fill = _
    unfold Classes.draw
    left
    split <;> simp [Boxes.boxed]
  case useCase =>
    show (UseCases.draw direction id bracket).fill = _ ∨ (UseCases.draw direction id bracket).fill = _
    unfold UseCases.draw
    split <;> simp [Boxes.boxed]
  case activity =>
    show (Activities.draw direction id bracket).fill = _ ∨
      (Activities.draw direction id bracket).fill = _
    unfold Activities.draw
    split
    · exact hterminal _ (by simp [Boxes.boxed])
    · exact .inr rfl
    · exact .inr (by simp [Activities.barNode])
    all_goals exact .inl (by simp [Boxes.boxed])
  case state =>
    show (States.draw direction id bracket).fill = _ ∨ (States.draw direction id bracket).fill = _
    unfold States.draw
    split
    · exact hterminal _ (by simp [Boxes.boxed])
    all_goals exact .inl (by simp [Boxes.boxed])
  case deployment => exact .inl (by simp [Deployments.dialect, Deployments.draw, Boxes.boxed])
  case package => exact .inl (by simp [Packages.dialect, Packages.draw, Boxes.boxed])

/-- The nodes of a graph have well-formed fills. -/
theorem Kind.isWellFormed_of_mem_nodes {kind : Kind} {direction : Direction}
    {lines : List SourceLine} {graph : Graph}
    (h : kind.compileLines direction lines = .ok (.graph graph)) {node : Node}
    (hnode : node ∈ graph.nodes) : ∀ fill ∈ node.fill, fill.IsWellFormed := by
  obtain ⟨dialect, read, hdialect, hread, hdrawn⟩ := isDrawnFrom_of_compileLines h
  intro fill hfill
  rcases hdrawn node hnode with ⟨bracket, hbracket, id, ports, rfl, -⟩ | ⟨-, id, rfl⟩
  · obtain ⟨label, hported⟩ := Node.exists_iterate_addPort_eq (dialect.draw direction id bracket) ports
    rw [hported] at hfill
    rcases fill_draw hdialect direction id bracket with hdraw | hdraw
    · exact isWellFormed_of_mem_brackets hread hbracket fill (hdraw ▸ hfill)
    · rw [hdraw] at hfill
      cases hfill
  · simp [Classes.junctionNode] at hfill

/-! ## Participants and notes -/

namespace Sequences

/-- The remark of a note stands in the line that the note is read off. -/
theorem remark_mem_of_note_mem_cues {exprs : List Expr} {object remark : NodeExpr}
    (h : Cue.note object remark ∈ cues exprs) : remark ∈ Expr.nodes exprs := by
  obtain ⟨⟨first, second, third⟩, hneighbours, hcue⟩ := List.mem_filterMap.mp h
  have hthird : third ∈ exprs :=
    List.mem_of_mem_tail (List.mem_of_mem_tail (List.of_mem_zip (List.of_mem_zip hneighbours).2).2)
  obtain ⟨left, right, -, rfl, -, ⟨sent, -, -, hmessage⟩ | ⟨-, -, hnote⟩⟩ := cue?_eq_some_iff.mp hcue
  · cases hmessage
  · cases hnote
    exact Expr.mem_nodes.mpr hthird

/-- A participant has the fill of an object. -/
theorem exists_of_mem_participantsOf {objects : List NodeExpr} {participant : Participant}
    (h : participant ∈ participantsOf objects) :
    ∃ object ∈ objects, participant.fill = object.fill := by
  obtain ⟨name, -, hname⟩ := List.mem_filterMap.mp h
  obtain ⟨object, hobject, rfl⟩ := Option.map_eq_some_iff.mp hname
  exact ⟨object, List.mem_of_find?_eq_some hobject, rfl⟩

end Sequences

/-- The fill of an event, if it is a note that has one. -/
def Event.fill? : Event → Option Fill
  | .message _ => none
  | .note shown => shown.fill

/-- The fills of a sequence diagram: those of its participants and of its notes. -/
def SequenceModel.fills (model : SequenceModel) : List Fill :=
  model.participants.filterMap Participant.fill ++ model.events.filterMap Event.fill?

namespace Sequences

/-- The fills of a sequence diagram are those of brackets. -/
theorem exists_bracket_of_mem_fills {lines : List (List Expr)}
    (hroles : ∀ bracket ∈ Expr.brackets lines, bracket.role = .record ∨ bracket.role = .note)
    {fill : Fill} (h : fill ∈ (modelOf lines).fills) :
    ∃ bracket ∈ Expr.brackets lines, fill ∈ bracket.fill := by
  have hscript := Script.Has.empty.foldl_addLine hroles
  have hparticipants : (modelOf lines).participants = _ := hscript.participants
  have hevents : (modelOf lines).events = _ := hscript.events
  rcases List.mem_append.mp h with h | h
  · obtain ⟨participant, hparticipant, hfill⟩ := List.mem_filterMap.mp h
    rw [hparticipants] at hparticipant
    obtain ⟨object, hobject, hsame⟩ := exists_of_mem_participantsOf hparticipant
    exact ⟨object, (List.mem_filter.mp hobject).1, hsame ▸ hfill⟩
  · obtain ⟨event, hevent, hfill⟩ := List.mem_filterMap.mp h
    rw [hevents, List.nil_append] at hevent
    obtain ⟨cue, hcue, rfl⟩ := List.mem_map.mp hevent
    obtain ⟨line, hline, hcue⟩ := List.mem_flatMap.mp hcue
    cases cue with
    | message sender sent receiver => cases hfill
    | note object remark =>
      exact ⟨remark, List.mem_flatMap.mpr ⟨line, hline, remark_mem_of_note_mem_cues hcue⟩, hfill⟩

end Sequences

/-! ## Documents -/

/-- The fills of a diagram: those of the nodes of a graph, or of the participants and notes of a
sequence diagram. -/
def Artifact.fills : Artifact → List Fill
  | .empty => []
  | .graph drawn => drawn.nodes.filterMap Node.fill
  | .sequence model => model.fills

/-- The fills of the diagram of a list of lines are well-formed. -/
theorem Kind.isWellFormed_of_compileLines {kind : Kind} {direction : Direction}
    {lines : List SourceLine} {artifact : Artifact}
    (h : kind.compileLines direction lines = .ok artifact) :
    ∀ fill ∈ artifact.fills, fill.IsWellFormed := by
  intro fill hfill
  cases artifact with
  | empty => cases hfill
  | graph drawn =>
    obtain ⟨node, hnode, hfill⟩ := List.mem_filterMap.mp hfill
    exact isWellFormed_of_mem_nodes h hnode fill hfill
  | sequence model =>
    obtain ⟨read, hread, rfl⟩ := Sequences.eq_modelOf_of_compileLines h
    obtain ⟨bracket, hbracket, hfill⟩ := Sequences.exists_bracket_of_mem_fills
      (fun _ => Sequences.role_of_mapM_parseLine hread) hfill
    exact isWellFormed_of_mem_brackets hread hbracket fill hfill

/-- **The colors of a document.** Every fill in the diagram of a document that compiles has the code of
a color and a color for the text on it, or a name that is made of letters and digits and no color for
the text; so none of them has a character that could end the place where it is written. -/
theorem isWellFormed_of_compile {source : Text} {options : CompileOptions} {compilation : Compilation}
    (h : compile source options = .ok compilation) :
    ∀ fill ∈ compilation.artifact.fills,
      fill.IsWellFormed ∧ ∀ c ∈ fill.color, c ∉ Fill.delimiters := by
  have hwell : ∀ fill ∈ compilation.artifact.fills, fill.IsWellFormed := by
    rcases Document.eq_empty_or_compileLines (artifact_of_compile h) with hempty | ⟨kind, hcompile⟩
    · rw [hempty]
      exact nofun
    · exact Kind.isWellFormed_of_compileLines hcompile
  exact fun fill hfill => ⟨hwell fill hfill, (hwell fill hfill).not_mem_delimiters⟩

/-- A color of CSS, a color in hexadecimal digits, and a name that is not known, on a participant, on
another and on a note. -/
theorem isWellFormed_of_compile_colors :
    let source := ("// \x7btype:sequence\x7d\n" ++
      "[A\x7bbg:azure\x7d]calls>[B\x7b bg : #a0B1c2 \x7d]-[note: hi\x7bbg:mauve12\x7d]").toList
    ∃ compilation, compile source {} = .ok compilation ∧
      compilation.artifact.fills.map (fun fill => String.ofList fill.color) =
        ["#F0FFFF", "#A0B1C2", "mauve12"] ∧
      ∀ fill ∈ compilation.artifact.fills,
        fill.IsWellFormed ∧ ∀ c ∈ fill.color, c ∉ Fill.delimiters := by
  intro source
  have hresult : (compile source {}).toOption.map (fun compilation =>
      compilation.artifact.fills.map fun fill => String.ofList fill.color) =
      some ["#F0FFFF", "#A0B1C2", "mauve12"] := by
    decide +kernel
  cases hcompile : compile source {} with
  | error failure =>
    rw [hcompile] at hresult
    cases hresult
  | ok compilation =>
    rw [hcompile] at hresult
    exact ⟨compilation, rfl, Option.some.inj hresult, isWellFormed_of_compile hcompile⟩

end UmlSketch
