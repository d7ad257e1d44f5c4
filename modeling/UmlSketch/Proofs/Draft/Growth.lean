import UmlSketch.Proofs.Draft.Lines

/-! # How a graph grows
A line appends statements to those before it. The one change that it may make to a statement that is
already there is to extend the label of a node at its end, by the port of an edge in an activity
diagram. So the graph of some lines is found again at the start of the graph of these and further lines
(`GraphDialect.growsInto_foldl_addLine`). -/

namespace UmlSketch

/-! ## Growth -/

/-- Whether a node **grows into** another: all that may differ is the end of its label, and that only
in an activity diagram. -/
def Node.GrowsInto (kind : Kind) (node later : Node) : Prop :=
  ∃ suffix, later = { node with label := node.label ++ suffix } ∧ (kind ≠ .activity → suffix = [])

/-- Whether a statement grows into another: a node may grow, and an edge stays as it is. -/
inductive Statement.GrowsInto (kind : Kind) : Statement → Statement → Prop
  /-- The node grows. -/
  | node {declared later : Node} (h : declared.GrowsInto kind later) :
    Statement.GrowsInto kind (.node declared) (.node later)
  /-- The edge stays. -/
  | edge (declared : Edge) : Statement.GrowsInto kind (.edge declared) (.edge declared)

/-- Whether a graph **grows into** another: each of its statements stays in its place. -/
structure Graph.GrowsInto (kind : Kind) (graph later : Graph) : Prop where
  /-- The settings stay. -/
  settings : later.settings = graph.settings
  /-- The statements come first, in their order; each may have grown. -/
  statements : ∀ (position : Nat) (statement : Statement),
    graph.statements[position]? = some statement →
      ∃ grown, later.statements[position]? = some grown ∧ statement.GrowsInto kind grown

variable {kind : Kind}

namespace Node.GrowsInto

theorem refl (kind : Kind) (node : Node) : node.GrowsInto kind node := ⟨[], by simp, fun _ => rfl⟩

theorem trans {node later last : Node} (h : node.GrowsInto kind later)
    (hnext : later.GrowsInto kind last) : node.GrowsInto kind last := by
  obtain ⟨suffix, rfl, hsuffix⟩ := h
  obtain ⟨more, rfl, hmore⟩ := hnext
  refine ⟨suffix ++ more, by simp, fun hkind => ?_⟩
  rw [hsuffix hkind, hmore hkind, List.append_nil]

/-- A port extends the label at its end. -/
theorem addPort (node : Node) : node.GrowsInto .activity node.addPort := by
  have hlabel : ∃ suffix, node.addPort.label = node.label ++ suffix := by
    simp only [Node.addPort]
    split
    · rename_i hnil
      exact ⟨_, by rw [hnil, List.nil_append]⟩
    · exact ⟨_, rfl⟩
  obtain ⟨suffix, hsuffix⟩ := hlabel
  exact ⟨suffix, by rw [← hsuffix]; rfl, fun hkind => absurd rfl hkind⟩

end Node.GrowsInto

namespace Statement.GrowsInto

theorem refl (kind : Kind) (statement : Statement) : statement.GrowsInto kind statement := by
  cases statement with
  | node declared => exact .node (.refl kind declared)
  | edge declared => exact .edge declared

theorem trans {statement later last : Statement} (h : statement.GrowsInto kind later)
    (hnext : later.GrowsInto kind last) : statement.GrowsInto kind last := by
  cases h with
  | node h =>
    cases hnext with
    | node hnext => exact .node (h.trans hnext)
  | edge declared => exact hnext

/-- Outside of activity diagrams nothing grows. -/
theorem eq_of_ne {statement later : Statement} (h : statement.GrowsInto kind later)
    (hkind : kind ≠ .activity) : later = statement := by
  cases h with
  | node h =>
    obtain ⟨suffix, rfl, hsuffix⟩ := h
    rw [hsuffix hkind, List.append_nil]
  | edge declared => rfl

end Statement.GrowsInto

namespace Graph.GrowsInto

theorem refl (kind : Kind) (graph : Graph) : graph.GrowsInto kind graph :=
  ⟨rfl, fun _ statement h => ⟨statement, h, .refl kind statement⟩⟩

theorem trans {graph later last : Graph} (h : graph.GrowsInto kind later)
    (hnext : later.GrowsInto kind last) : graph.GrowsInto kind last where
  settings := hnext.settings.trans h.settings
  statements := by
    intro position statement hstatement
    obtain ⟨grown, hgrown, hgrows⟩ := h.statements position statement hstatement
    obtain ⟨final, hfinal, hgrowsOn⟩ := hnext.statements position grown hgrown
    exact ⟨final, hfinal, hgrows.trans hgrowsOn⟩

/-- Outside of activity diagrams a graph that grows is only continued. -/
theorem prefix_of_ne {graph later : Graph} (h : graph.GrowsInto kind later)
    (hkind : kind ≠ .activity) : graph.statements <+: later.statements := by
  refine List.prefix_iff_getElem?.mpr fun position hposition => ?_
  obtain ⟨grown, hgrown, hgrows⟩ :=
    h.statements position _ (List.getElem?_eq_getElem hposition)
  rw [hgrown, hgrows.eq_of_ne hkind]

/-- Statements may be appended. -/
theorem of_append {graph : Graph} (added : List Statement) :
    graph.GrowsInto kind { graph with statements := graph.statements ++ added } where
  settings := rfl
  statements := by
    intro position statement hstatement
    have hlt := (List.getElem?_eq_some_iff.mp hstatement).1
    exact ⟨statement, by rw [List.getElem?_append_left hlt, hstatement], .refl kind statement⟩

/-- A node may be declared. -/
theorem addNode (graph : Graph) (node : Node) : graph.GrowsInto kind (graph.addNode node) := by
  unfold Graph.addNode
  split
  · exact refl kind graph
  · exact of_append _

/-- An edge may be declared. -/
theorem addEdge (graph : Graph) (edge : Edge) : graph.GrowsInto kind (graph.addEdge edge) :=
  of_append _

/-- In an activity diagram a port may be added. -/
theorem addPort (graph : Graph) (id : NodeId) : graph.GrowsInto .activity (graph.addPort id) where
  settings := rfl
  statements := by
    intro position statement hstatement
    have hlater : (graph.addPort id).statements[position]? =
        some (if statement.declares id then statement.mapNode Node.addPort else statement) := by
      simp only [Graph.addPort, List.getElem?_map, hstatement, Option.map_some]
    refine ⟨_, hlater, ?_⟩
    split
    · cases statement with
      | node declared => exact .node (.addPort declared)
      | edge declared => exact .edge declared
    · exact .refl .activity statement

end Graph.GrowsInto

/-! ## Lines -/

namespace GraphDialect

variable {dialect : GraphDialect} {draft : Draft} {seen : List NodeExpr}

/-- **What a line does to a graph**: it declares nodes and edges and, in an activity diagram, adds ports.
A property of graphs that these keep is kept by the line. -/
theorem addLine_induction {P : Graph → Prop} (hdialect : kind.graphDialect? = some dialect)
    (hnames : draft.registry.names = recordNames seen) (line : List Expr) (hstart : P draft.graph)
    (hnode : ∀ graph node, P graph → P (graph.addNode node))
    (hedge : ∀ graph edge, P graph → P (graph.addEdge edge))
    (hport : kind = .activity → ∀ graph id, P graph → P (graph.addPort id)) :
    P (dialect.addLine draft line).graph := by
  have hdeclared : P (draft.declareAll dialect.draw line).graph := by
    refine List.foldlRecOn (motive := fun later : Draft => P later.graph) (Expr.nodes line) _ hstart ?_
    intro later hlater bracket _
    by_cases hknown : later.Knows bracket
    · rw [Draft.declare_of_knows dialect.draw hknown]
      exact hlater
    · rw [Draft.declare_of_not_knows dialect.draw hknown]
      exact hnode _ _ hlater
  refine Kind.connect_induction (P := fun later => P later.graph) hdialect
    (Draft.knows_of_mem_line dialect.draw hnames line) hdeclared ?_ ?_
  · rintro later - ⟨source, link, target⟩ - hlater
    rcases Kind.addLink_cases kind later source link target with heq | ⟨node, hkind, -, -, heq⟩
    · rw [heq]
      exact hedge _ _ hlater
    · rw [heq]
      exact hedge _ _ (hport hkind _ _ hlater)
  · rintro ⟨left, link, right, qualifier⟩ -
    exact List.foldlRecOn (motive := fun later : Draft => P later.graph) _ _ (hnode _ _ hdeclared)
      fun later hlater edge _ => hedge _ _ hlater

/-- **Lines let the graph before them grow.** -/
theorem growsInto_foldl_addLine (hdialect : kind.graphDialect? = some dialect)
    (hnames : draft.registry.names = recordNames seen) (lines : List (List Expr)) :
    draft.graph.GrowsInto kind (lines.foldl dialect.addLine draft).graph := by
  induction lines generalizing draft seen with
  | nil => exact .refl kind _
  | cons line rest ih =>
    refine .trans ?_ (ih (names_addLine hdialect hnames line))
    refine addLine_induction (P := draft.graph.GrowsInto kind) hdialect hnames line (.refl kind _)
      (fun graph node h => h.trans (.addNode graph node))
      (fun graph edge h => h.trans (.addEdge graph edge)) ?_
    rintro rfl graph id h
    exact h.trans (.addPort graph id)

end GraphDialect

end UmlSketch
