import UmlSketch.Proofs.Description.Lines
import UmlSketch.Proofs.Dialect.Texts
import UmlSketch.Proofs.Draft.Lines

/-! # Texts of a draft
What a line adds to a draft keeps to one line each: labels are escaped before they are drawn, so the
line breaks of a wrapped label are gone; the texts at edges and the colors come from a line and have
none; and identifiers and ports are plain. -/

namespace UmlSketch

/-! ## Labels -/

/-- An escaped label has no line break. -/
theorem Label.not_mem_escape (text : Text) : '\n' ∉ escape text := by
  intro hmem
  obtain ⟨c, -, hc⟩ := List.mem_flatMap.mp hmem
  unfold escapeChar at hc
  split at hc
  · rename_i hspecial
    rcases hspecial with rfl | rfl | rfl | rfl | rfl <;> revert hc <;> decide
  split at hc
  · revert hc
    decide
  · rename_i hbreak
    exact hbreak (Or.inr (List.mem_singleton.mp hc).symm)

/-- A label with compartments has no line break. -/
theorem Boxes.not_mem_recordLabel (label : Text) (direction : Direction) :
    '\n' ∉ recordLabel label direction := by
  have hformat : '\n' ∉ Label.format label Label.width true := Label.not_mem_escape _
  simp only [recordLabel]
  split
  · simp [hformat]
  · exact hformat

/-! ## Drawn nodes -/

namespace Node.IsOneLine

variable {node : Node}

/-- A style changes no text. -/
theorem withStyle (h : node.IsOneLine) (style : NodeStyle) : (node.withStyle style).IsOneLine := by
  unfold Node.withStyle
  split
  · exact h
  · exact ⟨h.id, h.label, h.fill⟩

/-- A fill without line break keeps a node to one line. -/
theorem withFill (h : node.IsOneLine) {fill : Option Fill}
    (hfill : ∀ color ∈ fill, '\n' ∉ color.color) : (node.withFill fill).IsOneLine := by
  cases fill with
  | none => exact h
  | some color =>
    have hstyled := h.withStyle .filled
    refine ⟨hstyled.id, hstyled.label, fun other hother => ?_⟩
    cases hother
    exact hfill color rfl

/-- A port keeps a node to one line. -/
theorem addPort (h : node.IsOneLine) : node.addPort.IsOneLine := by
  refine ⟨h.id, ?_, h.fill⟩
  have hport : '\n' ∉ '<' :: Node.nextPort node.label ++ ['>'] := by
    have hdigits (n : Nat) : '\n' ∉ Decimal.digitsOf n :=
      (Decimal.isPlain_digitsOf n).not_mem (by decide)
    simp [Node.nextPort, hdigits]
  simp only [Node.addPort]
  split
  · exact hport
  · rw [List.mem_append, List.mem_cons, not_or, not_or]
    exact ⟨h.label, by decide, hport⟩

/-- A box of the ordinary size keeps to one line if its label does. -/
theorem boxed {id : NodeId} (hid : Text.IsPlain id) (shape : Shape) {label : Text}
    (hlabel : '\n' ∉ label) : (Boxes.boxed id shape label).IsOneLine :=
  ⟨hid, hlabel, fun _ hmem => by cases hmem⟩

/-- A mark keeps to one line. -/
theorem mark {id : NodeId} (hid : Text.IsPlain id) (shape : Shape) (size : Decimal) :
    (Boxes.mark id shape size).IsOneLine :=
  ⟨hid, List.not_mem_nil, fun _ hmem => by cases hmem⟩

/-- The circle for the start or the end of a flow keeps to one line, like the box in its place. -/
theorem terminal?_getD {id : NodeId} (hid : Text.IsPlain id) (label : Text)
    (h : node.IsOneLine) : ((Boxes.terminal? id label).getD node).IsOneLine := by
  unfold Boxes.terminal?
  split
  · exact mark hid _ _
  split
  · exact mark hid _ _
  · exact h

/-- **In every dialect a bracket is drawn as a node that keeps to one line.** -/
theorem draw {kind : Kind} {dialect : GraphDialect} (hdialect : kind.graphDialect? = some dialect)
    (direction : Direction) {id : NodeId} (hid : Text.IsPlain id) {bracket : NodeExpr}
    (hbracket : bracket.IsOneLine) : (dialect.draw direction id bracket).IsOneLine := by
  have hformat (compartments : Bool) :
      '\n' ∉ Label.format bracket.label Label.width compartments := Label.not_mem_escape _
  cases kind <;> cases hdialect
  case classes =>
    show (Classes.draw direction id bracket).IsOneLine
    unfold Classes.draw
    split
    · exact (boxed hid _ (hformat true)).withFill hbracket
    · exact (boxed hid _ (Boxes.not_mem_recordLabel _ _)).withFill hbracket
  case useCase =>
    show (UseCases.draw direction id bracket).IsOneLine
    unfold UseCases.draw
    split
    · refine ⟨hid, ?_, fun _ hmem => by cases hmem⟩
      rw [List.mem_append, not_or]
      exact ⟨by decide, hformat false⟩
    · exact (boxed hid _ (hformat false)).withFill hbracket
    · exact (boxed hid _ (hformat false)).withFill hbracket
  case activity =>
    have hbox (shape : Shape) : (((Boxes.boxed id shape (Label.escape bracket.label)).withStyle
        .rounded).withFill bracket.fill).IsOneLine :=
      ((boxed hid shape (Label.not_mem_escape _)).withStyle .rounded).withFill hbracket
    show (Activities.draw direction id bracket).IsOneLine
    unfold Activities.draw
    split
    · exact terminal?_getD hid _ (hbox .rectangle)
    · exact mark hid _ _
    · exact withStyle ⟨hid, List.not_mem_nil, fun _ hmem => by cases hmem⟩ .filled
    · exact hbox .note
    · exact hbox .rectangle
  case state =>
    have hbox (shape : Shape) {label : Text} (hlabel : '\n' ∉ label) :
        (((Boxes.boxed id shape label).withStyle .rounded).withFill bracket.fill).IsOneLine :=
      ((boxed hid shape hlabel).withStyle .rounded).withFill hbracket
    show (States.draw direction id bracket).IsOneLine
    unfold States.draw
    split
    · exact terminal?_getD hid _ (hbox .record (Boxes.not_mem_recordLabel _ _))
    · exact hbox .note (hformat true)
    · exact hbox .record (Boxes.not_mem_recordLabel _ _)
  case deployment =>
    exact (boxed hid _ (hformat true)).withFill hbracket
  case package =>
    exact (boxed hid _ (hformat true)).withFill hbracket

end Node.IsOneLine

/-! ## Edges -/

/-- The identifier of a bracket is plain. -/
theorem NodeExpr.isPlain_idIn (names : List Text) (bracket : NodeExpr) :
    Text.IsPlain (bracket.idIn names) := NodeId.isPlain_box _

/-- An end at a node without port is plain if the node's identifier is. -/
theorem Endpoint.isPlain_render {id : NodeId} (h : Text.IsPlain id) :
    (Endpoint.render { node := id }).IsPlain := by
  simpa [Endpoint.render] using h

namespace Edge.IsOneLine

/-- The edge of a connector without line breaks keeps to one line. -/
theorem edgeOf (kind : Kind) (names : List Text) (source target : NodeExpr) {link : EdgeExpr}
    (hlink : link.IsOneLine) : (kind.edgeOf names source link target).IsOneLine where
  source := Endpoint.isPlain_render (source.isPlain_idIn names)
  target := Endpoint.isPlain_render (target.isPlain_idIn names)
  label := hlink.label
  tailLabel := hlink.tailLabel
  headLabel := hlink.headLabel

/-- An edge that is turned to a port keeps to one line. -/
theorem enterAt {edge : Edge} (h : edge.IsOneLine) (hnode : Text.IsPlain edge.target.node)
    (label : Text) (direction : Direction) :
    (edge.enterAt (Node.nextPort label) direction.entryCompass).IsOneLine := by
  have hport : Text.IsPlain (Node.nextPort label) :=
    Text.isPlain_cons.mpr ⟨by decide, Decimal.isPlain_digitsOf _⟩
  have hcompass : Text.IsPlain direction.entryCompass := by
    cases direction <;> decide
  refine ⟨h.source, ?_, h.label, h.tailLabel, h.headLabel⟩
  exact Text.isPlain_append.mpr ⟨Text.isPlain_append.mpr
    ⟨hnode, Text.isPlain_cons.mpr ⟨by decide, hport⟩⟩, Text.isPlain_cons.mpr ⟨by decide, hcompass⟩⟩

/-- The edges of a qualified association keep to one line. -/
theorem of_mem_qualifiedEdges {link : EdgeExpr} (hlink : link.IsOneLine)
    {left right qualifier : NodeId} (hleft : Text.IsPlain left) (hright : Text.IsPlain right)
    (hqualifier : Text.IsPlain qualifier) :
    ∀ edge ∈ Classes.qualifiedEdges link left right qualifier, edge.IsOneLine := by
  have hjunction := Endpoint.isPlain_render (NodeId.isPlain_junction hleft hright)
  simp only [Classes.qualifiedEdges, List.forall_mem_cons]
  exact ⟨⟨Endpoint.isPlain_render hleft, hjunction, by simp, hlink.tailLabel, by simp⟩,
    ⟨hjunction, Endpoint.isPlain_render hright, by simp, by simp, hlink.headLabel⟩,
    ⟨Endpoint.isPlain_render hqualifier, hjunction, by simp, by simp, by simp⟩, by simp⟩

end Edge.IsOneLine

/-! ## Graphs under construction -/

/-- Whether every statement of a graph keeps to one line. -/
def Graph.IsOneLine (graph : Graph) : Prop := ∀ statement ∈ graph.statements, statement.IsOneLine

namespace Graph.IsOneLine

variable {graph : Graph}

/-- A node that keeps to one line can be added. -/
theorem addNode (h : graph.IsOneLine) {node : Node} (hnode : node.IsOneLine) :
    (graph.addNode node).IsOneLine := by
  unfold Graph.addNode
  split
  · exact h
  · exact List.forall_mem_append.mpr ⟨h, List.forall_mem_singleton.mpr hnode⟩

/-- An edge that keeps to one line can be added. -/
theorem addEdge (h : graph.IsOneLine) {edge : Edge} (hedge : edge.IsOneLine) :
    (graph.addEdge edge).IsOneLine :=
  List.forall_mem_append.mpr ⟨h, List.forall_mem_singleton.mpr hedge⟩

/-- A port can be added. -/
theorem addPort (h : graph.IsOneLine) (id : NodeId) : (graph.addPort id).IsOneLine := by
  intro statement hstatement
  obtain ⟨before, hbefore, rfl⟩ := List.mem_map.mp hstatement
  have hone := h before hbefore
  split
  · cases before with
    | node declared => exact Node.IsOneLine.addPort hone
    | edge declared => exact hone
  · exact hone

end Graph.IsOneLine

namespace Draft

variable {kind : Kind} {dialect : GraphDialect} {draft : Draft}

/-- Declaring a bracket without line breaks keeps the statements to one line each. -/
theorem isOneLine_declare (hdialect : kind.graphDialect? = some dialect)
    (h : draft.graph.IsOneLine) {bracket : NodeExpr} (hbracket : bracket.IsOneLine) :
    (draft.declare dialect.draw bracket).graph.IsOneLine := by
  by_cases hknows : draft.Knows bracket
  · rw [declare_of_knows dialect.draw hknows]
    exact h
  · rw [declare_of_not_knows dialect.draw hknows]
    exact h.addNode (Node.IsOneLine.draw hdialect _ (NodeId.isPlain_box _) hbracket)

/-- Declaring the brackets of a line without line breaks keeps the statements to one line each. -/
theorem isOneLine_declareAll (hdialect : kind.graphDialect? = some dialect)
    (h : draft.graph.IsOneLine) {exprs : List Expr} (hexprs : ∀ expr ∈ exprs, expr.IsOneLine) :
    (draft.declareAll dialect.draw exprs).graph.IsOneLine := by
  have hbrackets : ∀ bracket ∈ Expr.nodes exprs, bracket.IsOneLine := fun bracket hbracket =>
    hexprs (.node bracket) (Expr.mem_nodes.mp hbracket)
  unfold declareAll
  generalize Expr.nodes exprs = brackets at hbrackets
  induction brackets generalizing draft with
  | nil => exact h
  | cons bracket rest ih =>
    rw [List.forall_mem_cons] at hbrackets
    exact ih (isOneLine_declare hdialect h hbrackets.1) hbrackets.2

/-- A link without line breaks keeps the statements to one line each. -/
theorem isOneLine_addLink (kind : Kind) (h : draft.graph.IsOneLine) (source target : NodeExpr)
    {link : EdgeExpr} (hlink : link.IsOneLine) :
    (kind.addLink draft (source, link, target)).graph.IsOneLine := by
  have hedge := Edge.IsOneLine.edgeOf kind draft.registry.names source target hlink
  rcases Kind.addLink_cases kind draft source link target with heq | ⟨node, -, -, -, heq⟩
  · rw [heq]
    exact h.addEdge hedge
  · rw [heq]
    exact (h.addPort _).addEdge (hedge.enterAt (target.isPlain_idIn _) _ _)

/-- A qualified association without line breaks keeps the statements to one line each. -/
theorem isOneLine_addQualified (h : draft.graph.IsOneLine) (left right qualifier : NodeExpr)
    {link : EdgeExpr} (hlink : link.IsOneLine) :
    (Kind.addQualified draft (left, link, right, qualifier)).graph.IsOneLine := by
  have hleft := left.isPlain_idIn draft.registry.names
  have hright := right.isPlain_idIn draft.registry.names
  have hjunction : (Classes.junctionNode (.junction (left.idIn draft.registry.names)
      (right.idIn draft.registry.names))).IsOneLine :=
    Node.IsOneLine.withStyle ⟨NodeId.isPlain_junction hleft hright, List.not_mem_nil,
      fun _ hmem => by cases hmem⟩ .invisible
  have hedges := Edge.IsOneLine.of_mem_qualifiedEdges hlink hleft hright
    (qualifier.isPlain_idIn draft.registry.names)
  have hbase := h.addNode hjunction
  simp only [Kind.addQualified]
  -- The edges are added one after the other to the graph with the junction.
  generalize Classes.qualifiedEdges link _ _ _ = edges at hedges ⊢
  generalize hdraft : ({ draft with graph := draft.graph.addNode _ } : Draft) = base
  have hbase : base.graph.IsOneLine := by
    rw [← hdraft]
    exact hbase
  clear hdraft
  induction edges generalizing base with
  | nil => exact hbase
  | cons edge rest ih =>
    rw [List.forall_mem_cons] at hedges
    exact ih hedges.2 (base.addEdge edge) (hbase.addEdge hedges.1)

/-- **A line without line breaks keeps the statements to one line each.** -/
theorem isOneLine_addLine (hdialect : kind.graphDialect? = some dialect) {seen : List NodeExpr}
    (hnames : draft.registry.names = recordNames seen) (h : draft.graph.IsOneLine)
    {exprs : List Expr} (hexprs : ∀ expr ∈ exprs, expr.IsOneLine) :
    (dialect.addLine draft exprs).graph.IsOneLine := by
  refine Kind.connect_induction (P := fun later => later.graph.IsOneLine) hdialect
    (Draft.knows_of_mem_line dialect.draw hnames exprs) (isOneLine_declareAll hdialect h hexprs) ?_ ?_
  · rintro later - ⟨source, link, target⟩ hlink hlater
    exact isOneLine_addLink kind hlater source target
      (hexprs (.edge link) (Expr.mem_of_mem_sandwiched hlink).2.1)
  · rintro ⟨left, link, right, qualifier⟩ hqualified
    obtain ⟨-, rfl⟩ := Kind.eq_of_qualified? hqualified
    exact isOneLine_addQualified (isOneLine_declareAll hdialect h hexprs) left right qualifier
      (hexprs (.edge link) (by simp))

/-- **Lines without line breaks keep the statements to one line each.** -/
theorem isOneLine_foldl_addLine (hdialect : kind.graphDialect? = some dialect)
    {seen : List NodeExpr} (hnames : draft.registry.names = recordNames seen)
    (h : draft.graph.IsOneLine) {lines : List (List Expr)}
    (hlines : ∀ exprs ∈ lines, ∀ expr ∈ exprs, expr.IsOneLine) :
    (lines.foldl dialect.addLine draft).graph.IsOneLine := by
  induction lines generalizing draft seen with
  | nil => exact h
  | cons exprs rest ih =>
    rw [List.forall_mem_cons] at hlines
    exact ih (GraphDialect.names_addLine hdialect hnames exprs)
      (isOneLine_addLine hdialect hnames h hlines.1) hlines.2

end Draft

/-- The statements of a graph that lines without line breaks compile to keep to one line each. -/
theorem Kind.isOneLine_of_compileLines {kind : Kind} {direction : Direction}
    {lines : List SourceLine} {graph : Graph} (hlines : ∀ line ∈ lines, '\n' ∉ line.text)
    (h : kind.compileLines direction lines = .ok (.graph graph)) : graph.IsOneLine := by
  obtain ⟨dialect, read, hdialect, hread, rfl⟩ := Kind.graph_of_compileLines h
  refine Draft.isOneLine_foldl_addLine hdialect (Draft.names_empty _)
    (fun _ hmem => by cases hmem) ?_
  intro exprs hexprs
  obtain ⟨line, hline, hparse⟩ := exists_of_mem_mapM_eq_ok hread hexprs
  exact isOneLine_of_parseLine (hlines line hline) hparse

end UmlSketch
