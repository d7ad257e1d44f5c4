import UmlSketch.Dialect.Basic
import UmlSketch.Proofs.Registry

/-! # What a line adds to a draft
A line first takes up the names of its brackets and draws those that are new. From then on each of its
brackets has an identifier, so that every connector between two brackets becomes an edge: nothing is
left out for want of a name. `Kind.connect_eq` says so for all dialects at once, and
`Kind.connect_induction` is what follows for properties of drafts. -/

namespace UmlSketch

/-- The identifier of a bracket by the place of its name in a list of names. -/
def NodeExpr.idIn (names : List Text) (bracket : NodeExpr) : NodeId :=
  .box (names.idxOf bracket.name)

/-! ## Brackets that stand beside a connector -/

namespace Expr

/-- The brackets of a list of lines, from top to bottom and from left to right. -/
def brackets (lines : List (List Expr)) : List NodeExpr := lines.flatMap nodes

@[simp] theorem brackets_nil : brackets [] = [] := rfl

@[simp] theorem mem_nodes {exprs : List Expr} {bracket : NodeExpr} :
    bracket ∈ nodes exprs ↔ .node bracket ∈ exprs := by
  constructor
  · intro h
    obtain ⟨expr, hexpr, hnode⟩ := List.mem_filterMap.mp h
    cases expr <;> simp_all [node?]
  · exact fun h => List.mem_filterMap.mpr ⟨_, h, rfl⟩

/-- A connector between two brackets stands in the line with both of them. -/
theorem mem_of_mem_sandwiched {exprs : List Expr} {source target : NodeExpr} {edge : EdgeExpr}
    (h : (source, edge, target) ∈ sandwiched exprs) :
    .node source ∈ exprs ∧ .edge edge ∈ exprs ∧ .node target ∈ exprs := by
  induction exprs with
  | nil => simp [sandwiched] at h
  | cons first rest ih =>
    unfold sandwiched at h
    split at h
    · rcases List.mem_cons.mp h with heq | h
      · cases heq
        simp
      · obtain ⟨hsource, hedge, htarget⟩ := ih h
        exact ⟨.tail _ hsource, .tail _ hedge, .tail _ htarget⟩
    · obtain ⟨hsource, hedge, htarget⟩ := ih h
      exact ⟨.tail _ hsource, .tail _ hedge, .tail _ htarget⟩

/-- The association between two classes that a third class qualifies, if a line is just that. -/
def qualified? : List Expr → Option (NodeExpr × EdgeExpr × NodeExpr × NodeExpr)
  | [.node left, .edge link, .node right, .node qualifier] =>
    if left.role = .record ∧ right.role = .record ∧ qualifier.role = .record then
      some (left, link, right, qualifier)
    else none
  | _ => none

/-- A qualified association is the whole line. -/
theorem eq_of_qualified? {exprs : List Expr} {left right qualifier : NodeExpr} {link : EdgeExpr}
    (h : qualified? exprs = some (left, link, right, qualifier)) :
    exprs = [.node left, .edge link, .node right, .node qualifier] := by
  unfold qualified? at h
  split at h
  · split at h
    · cases h
      rfl
    · simp at h
  · simp at h

end Expr

/-! ## Names -/

namespace Draft

variable {draft : Draft} {bracket : NodeExpr}

/-- Whether the name of a bracket has been taken up. -/
def Knows (draft : Draft) (bracket : NodeExpr) : Prop := bracket.name ∈ draft.registry.names

/-- A bracket whose name is known has an identifier. -/
theorem id?_eq_some (h : draft.Knows bracket) :
    draft.id? bracket = some (bracket.idIn draft.registry.names) :=
  Registry.get?_eq_some_of_mem h

/-- A bracket whose name is known adds nothing. -/
theorem declare_of_knows (draw : Direction → NodeId → NodeExpr → Node) (h : draft.Knows bracket) :
    draft.declare draw bracket = draft := by
  have hid : (draft.registry.create bracket.label).2 = none := by
    rw [Registry.create_snd, if_pos (show Label.recordName bracket.label ∈ _ from h)]
  unfold declare
  split
  · simp_all
  · rfl

/-- A bracket whose name is new takes the next identifier. -/
theorem declare_of_not_knows (draw : Direction → NodeId → NodeExpr → Node)
    (h : ¬ draft.Knows bracket) :
    draft.declare draw bracket =
      ⟨⟨draft.registry.names ++ [bracket.name]⟩,
        draft.graph.addNode (draw draft.graph.settings.direction
          (.box draft.registry.size) bracket)⟩ := by
  have hid : (draft.registry.create bracket.label).2 = some (.box draft.registry.size) := by
    rw [Registry.create_snd, if_neg (show ¬ Label.recordName bracket.label ∈ _ from h)]
  have hnames : (draft.registry.create bracket.label).1.names =
      draft.registry.names ++ [bracket.name] := by
    rw [Registry.names_create, if_neg (show ¬ Label.recordName bracket.label ∈ _ from h)]
    rfl
  unfold declare
  split
  · rename_i registry id heq
    rw [heq] at hid hnames
    cases hid
    cases registry
    cases hnames
    rfl
  · simp_all

/-- The draft without statements has no names. -/
theorem names_empty (settings : GraphSettings) :
    (Draft.empty settings).registry.names = recordNames [] := rfl

/-- The names after a bracket has been declared. -/
theorem names_declare (draw : Direction → NodeId → NodeExpr → Node) {seen : List NodeExpr}
    (h : draft.registry.names = recordNames seen) (bracket : NodeExpr) :
    (draft.declare draw bracket).registry.names = recordNames (seen ++ [bracket]) := by
  rw [recordNames_concat]
  by_cases hknows : draft.Knows bracket
  · rw [declare_of_knows draw hknows, if_pos (by rw [← h]; exact hknows), h]
  · rw [declare_of_not_knows draw hknows, if_neg (by rw [← h]; exact hknows), h]

/-- **Induction along the brackets of a line**: what a draft keeps when a bracket is declared, as one more
of those seen, it keeps when all brackets of the line are. -/
theorem declareAll_induction {P : Draft → List NodeExpr → Prop}
    (draw : Direction → NodeId → NodeExpr → Node)
    (hdeclare : ∀ (later : Draft) (seen : List NodeExpr) (bracket : NodeExpr), P later seen →
      P (later.declare draw bracket) (seen ++ [bracket]))
    {seen : List NodeExpr} (hstart : P draft seen) (exprs : List Expr) :
    P (draft.declareAll draw exprs) (seen ++ Expr.nodes exprs) := by
  unfold declareAll
  generalize Expr.nodes exprs = brackets
  induction brackets generalizing draft seen with
  | nil => simpa using hstart
  | cons bracket rest ih =>
    have hrest := ih (hdeclare draft seen bracket hstart)
    rw [List.append_assoc, List.singleton_append] at hrest
    exact hrest

/-- The names after the brackets of a line have been declared. -/
theorem names_declareAll (draw : Direction → NodeId → NodeExpr → Node) {seen : List NodeExpr}
    (h : draft.registry.names = recordNames seen) (exprs : List Expr) :
    (draft.declareAll draw exprs).registry.names = recordNames (seen ++ Expr.nodes exprs) :=
  declareAll_induction (P := fun later seen => later.registry.names = recordNames seen) draw
    (fun _ _ bracket hlater => names_declare draw hlater bracket) h exprs

end Draft

/-! ## Links -/

/-- The edge turned to a port of its target, entered from a side. -/
def Edge.enterAt (edge : Edge) (port compass : Text) : Edge :=
  { edge with target := { node := edge.target.node, port := some port, compass := some compass } }

/-- A node is found under its own identifier. -/
theorem Graph.id_of_node? {graph : Graph} {id : NodeId} {node : Node}
    (h : graph.node? id = some node) : node.id = id := by
  simpa using List.find?_some h

/-- An edge into a bar that is drawn ends at the bar's next port, which is added to the bar; every
other edge is added as it is. -/
theorem Activities.place_cases (draft : Draft) (target : NodeExpr) (edge : Edge) :
    Activities.place draft target edge = draft.addEdge edge ∨
      ∃ node, target.role = .bar ∧ draft.graph.node? edge.target.node = some node ∧
        Activities.place draft target edge =
          ({ draft with graph := draft.graph.addPort edge.target.node }).addEdge
            (edge.enterAt (Node.nextPort node.label)
              draft.graph.settings.direction.entryCompass) := by
  unfold Activities.place
  split
  · rename_i node hrole hnode
    refine Or.inr ⟨node, hrole, hnode, ?_⟩
    simp only [Graph.id_of_node? hnode]
    rfl
  · exact Or.inl rfl

namespace Kind

variable {kind : Kind} {dialect : GraphDialect} {draft : Draft} {exprs : List Expr}

/-- How far the texts at the ends of an edge are from the nodes. -/
def labelDistance : Kind → Decimal
  | .activity => .ofNat 1
  | _ => .ofNat 2

/-- The edge that a connector between two brackets stands for. It is dashed if one of them is a note,
and in a class diagram it then keeps the two nodes on one rank. -/
def edgeOf (kind : Kind) (names : List Text) (source : NodeExpr) (link : EdgeExpr)
    (target : NodeExpr) : Edge where
  source := { node := source.idIn names }
  target := { node := target.idIn names }
  tail := link.tail
  head := link.head
  label := link.label
  tailLabel := link.tailLabel
  headLabel := link.headLabel
  line := if source.isNote || target.isNote then .dashed else link.line
  labelDistance := some kind.labelDistance
  fontSize := some (.ofNat 10)
  sameRank := kind = .classes && (source.isNote || target.isNote)

/-- Adds the edge of a connector between two brackets. In an activity diagram an edge into a bar ends
at a port. -/
def addLink (kind : Kind) (draft : Draft) (link : NodeExpr × EdgeExpr × NodeExpr) : Draft :=
  let edge := kind.edgeOf draft.registry.names link.1 link.2.1 link.2.2
  match kind with
  | .activity => Activities.place draft link.2.2 edge
  | _ => draft.addEdge edge

/-- Adds the junction and the edges of an association between two classes that a third qualifies. -/
def addQualified (draft : Draft)
    (association : NodeExpr × EdgeExpr × NodeExpr × NodeExpr) : Draft :=
  let (left, link, right, qualifier) := association
  let id (bracket : NodeExpr) : NodeId := bracket.idIn draft.registry.names
  (Classes.qualifiedEdges link (id left) (id right) (id qualifier)).foldl Draft.addEdge
    { draft with
      graph := draft.graph.addNode (Classes.junctionNode (.junction (id left) (id right))) }

/-- The association that a class qualifies, in a class diagram. -/
def qualified? (kind : Kind) (exprs : List Expr) :
    Option (NodeExpr × EdgeExpr × NodeExpr × NodeExpr) :=
  if kind = .classes then Expr.qualified? exprs else none

/-- Only lines of class diagrams are qualified associations. -/
theorem eq_of_qualified? {left right qualifier : NodeExpr} {link : EdgeExpr}
    (h : kind.qualified? exprs = some (left, link, right, qualifier)) :
    kind = .classes ∧ exprs = [.node left, .edge link, .node right, .node qualifier] := by
  unfold qualified? at h
  split at h
  · rename_i hkind
    exact ⟨hkind, Expr.eq_of_qualified? h⟩
  · simp at h

/-- A link adds its edge, which may be turned to a port that is added to its target. -/
theorem addLink_cases (kind : Kind) (draft : Draft) (source : NodeExpr) (link : EdgeExpr)
    (target : NodeExpr) :
    let edge := kind.edgeOf draft.registry.names source link target
    kind.addLink draft (source, link, target) = draft.addEdge edge ∨
      ∃ node, kind = .activity ∧ target.role = .bar ∧
        draft.graph.node? edge.target.node = some node ∧
        kind.addLink draft (source, link, target) =
          ({ draft with graph := draft.graph.addPort edge.target.node }).addEdge
            (edge.enterAt (Node.nextPort node.label)
              draft.graph.settings.direction.entryCompass) := by
  cases kind
  case activity =>
    rcases Activities.place_cases draft target
      (edgeOf .activity draft.registry.names source link target) with h | ⟨node, hrole, hnode, h⟩
    · exact Or.inl h
    · exact Or.inr ⟨node, rfl, hrole, hnode, h⟩
  all_goals exact Or.inl rfl

/-- A link takes up no names. -/
@[simp] theorem registry_addLink (kind : Kind) (draft : Draft)
    (link : NodeExpr × EdgeExpr × NodeExpr) :
    (kind.addLink draft link).registry = draft.registry := by
  obtain ⟨source, link, target⟩ := link
  rcases addLink_cases kind draft source link target with h | ⟨node, -, -, -, h⟩ <;> rw [h] <;> rfl

/-- Between two known brackets there is always an edge, to be completed by the dialect. -/
theorem edgeBetween?_eq_some (kind : Kind) {source target : NodeExpr} (link : EdgeExpr)
    (hsource : draft.Knows source) (htarget : draft.Knows target) :
    draft.edgeBetween? source link target =
      some { kind.edgeOf draft.registry.names source link target with
        labelDistance := none, sameRank := false } := by
  rw [Draft.edgeBetween?, Draft.id?_eq_some hsource, Draft.id?_eq_some htarget]
  rfl

/-- If all brackets of a line are known, then the connectors of the line become edges one after the
other, and none is passed over. -/
theorem connectAll_eq_foldl (kind : Kind) {finish : NodeExpr → NodeExpr → Edge → Edge}
    {place : Draft → NodeExpr → Edge → Draft}
    (hplace : ∀ (draft : Draft) (source : NodeExpr) (link : EdgeExpr) (target : NodeExpr),
      place draft target (finish source target
        { kind.edgeOf draft.registry.names source link target with
          labelDistance := none, sameRank := false }) =
        kind.addLink draft (source, link, target))
    (hknown : ∀ bracket ∈ Expr.nodes exprs, draft.Knows bracket) :
    draft.connectAll finish place exprs = (Expr.sandwiched exprs).foldl kind.addLink draft := by
  have hlinks : ∀ link ∈ Expr.sandwiched exprs, draft.Knows link.1 ∧ draft.Knows link.2.2 := by
    rintro ⟨source, link, target⟩ h
    obtain ⟨hsource, -, htarget⟩ := Expr.mem_of_mem_sandwiched h
    exact ⟨hknown _ (Expr.mem_nodes.mpr hsource), hknown _ (Expr.mem_nodes.mpr htarget)⟩
  unfold Draft.connectAll
  generalize Expr.sandwiched exprs = links at hlinks
  clear hknown
  -- The names stay as they are along the fold, so what is known at its start is known at each link.
  induction links generalizing draft with
  | nil => rfl
  | cons link rest ih =>
    obtain ⟨source, link, target⟩ := link
    obtain ⟨hsource, htarget⟩ := hlinks _ List.mem_cons_self
    rw [List.foldl_cons, List.foldl_cons]
    simp only [edgeBetween?_eq_some kind link hsource htarget, hplace]
    refine ih fun later hlater => ?_
    rw [Draft.Knows, Draft.Knows, registry_addLink]
    exact hlinks later (List.mem_cons_of_mem _ hlater)

/-- An association between known classes that a known class qualifies is always added. -/
theorem qualify_eq {left right qualifier : NodeExpr} (link : EdgeExpr) (hleft : draft.Knows left)
    (hright : draft.Knows right) (hqualifier : draft.Knows qualifier) :
    Classes.qualify draft left link right qualifier =
      addQualified draft (left, link, right, qualifier) := by
  unfold Classes.qualify
  rw [Draft.id?_eq_some hleft, Draft.id?_eq_some hright, Draft.id?_eq_some hqualifier]
  rfl

/-- A line that is a qualified association is taken as a whole. -/
theorem connect_of_qualified (draft : Draft) {left right qualifier : NodeExpr} {link : EdgeExpr}
    (h : Expr.qualified? exprs = some (left, link, right, qualifier)) :
    Classes.connect draft exprs = Classes.qualify draft left link right qualifier := by
  unfold Expr.qualified? at h
  split at h
  · split at h
    · rename_i hroles
      cases h
      simp only [Classes.connect, if_pos hroles]
    · simp at h
  · simp at h

/-- Every other line of a class diagram is taken connector by connector. -/
theorem connect_of_not_qualified (draft : Draft) (h : Expr.qualified? exprs = none) :
    Classes.connect draft exprs =
      draft.connectAll Classes.finishEdge (fun draft _ edge => draft.addEdge edge) exprs := by
  unfold Expr.qualified? at h
  split at h
  · split at h
    · simp at h
    · rename_i hroles
      simp only [Classes.connect, if_neg hroles]
  · rename_i hother
    unfold Classes.connect
    split
    · exact absurd rfl (hother _ _ _ _)
    · rfl

/-- Four dialects have nothing of their own in their lines. -/
theorem connectAt_eq_foldl (hkind : kind ∈ [.useCase, .state, .deployment, .package])
    (hknown : ∀ bracket ∈ Expr.nodes exprs, draft.Knows bracket) :
    draft.connectAt (.ofNat 2) exprs = (Expr.sandwiched exprs).foldl kind.addLink draft := by
  unfold Draft.connectAt
  refine connectAll_eq_foldl kind (fun draft source link target => ?_) hknown
  simp only [List.mem_cons, List.not_mem_nil, or_false] at hkind
  rcases hkind with rfl | rfl | rfl | rfl <;> rfl

/-- **What the connectors of a line add** once its brackets are known: a qualified association if the
line is one, else all its links. -/
theorem connect_eq (hdialect : kind.graphDialect? = some dialect)
    (hknown : ∀ bracket ∈ Expr.nodes exprs, draft.Knows bracket) :
    dialect.connect draft exprs =
      match kind.qualified? exprs with
      | some association => addQualified draft association
      | none => (Expr.sandwiched exprs).foldl kind.addLink draft := by
  cases kind <;> cases hdialect
  case classes =>
    have heach : draft.connectAll Classes.finishEdge (fun draft _ edge => draft.addEdge edge) exprs =
        (Expr.sandwiched exprs).foldl (addLink .classes) draft :=
      connectAll_eq_foldl .classes (fun _ _ _ _ => rfl) hknown
    show Classes.connect draft exprs = match Expr.qualified? exprs with
      | some association => addQualified draft association
      | none => (Expr.sandwiched exprs).foldl (addLink .classes) draft
    cases hqualified : Expr.qualified? exprs with
    | none => rw [connect_of_not_qualified draft hqualified, heach]
    | some association =>
      obtain ⟨left, link, right, qualifier⟩ := association
      rw [connect_of_qualified draft hqualified]
      cases Expr.eq_of_qualified? hqualified
      exact qualify_eq link (hknown left (by simp)) (hknown right (by simp))
        (hknown qualifier (by simp))
  case activity =>
    show draft.connectAll (fun _ _ edge => { edge with labelDistance := some (.ofNat 1) })
      Activities.place exprs = _
    exact connectAll_eq_foldl .activity (fun _ _ _ _ => rfl) hknown
  case useCase => exact connectAt_eq_foldl (by simp) hknown
  case state => exact connectAt_eq_foldl (by simp) hknown
  case deployment => exact connectAt_eq_foldl (by simp) hknown
  case package => exact connectAt_eq_foldl (by simp) hknown

/-- **Induction along a line**: what holds of a draft that knows the brackets of a line is kept by the
connectors of the line, if each link and each qualified association keeps it. -/
theorem connect_induction {P : Draft → Prop} (hdialect : kind.graphDialect? = some dialect)
    (hknown : ∀ bracket ∈ Expr.nodes exprs, draft.Knows bracket) (hstart : P draft)
    (hlink : ∀ later : Draft, later.registry = draft.registry →
      ∀ link ∈ Expr.sandwiched exprs, P later → P (kind.addLink later link))
    (hqualified : ∀ association, kind.qualified? exprs = some association →
      P (addQualified draft association)) :
    P (dialect.connect draft exprs) := by
  rw [connect_eq hdialect hknown]
  split
  · rename_i association h
    exact hqualified association h
  · have hboth : ∀ links ⊆ Expr.sandwiched exprs, ∀ later : Draft,
        later.registry = draft.registry → P later → P (links.foldl kind.addLink later) := by
      intro links
      induction links with
      | nil => exact fun _ _ _ h => h
      | cons link rest ih =>
        intro hlinks later hlater h
        rw [List.foldl_cons]
        exact ih (List.subset_of_cons_subset hlinks) _ ((registry_addLink _ _ _).trans hlater)
          (hlink later hlater link (hlinks List.mem_cons_self) h)
    exact hboth _ (List.Subset.refl _) draft rfl hstart

/-- The connectors of a line whose brackets are known take up no names. -/
theorem registry_connect (hdialect : kind.graphDialect? = some dialect)
    (hknown : ∀ bracket ∈ Expr.nodes exprs, draft.Knows bracket) :
    (dialect.connect draft exprs).registry = draft.registry :=
  connect_induction (P := fun later => later.registry = draft.registry) hdialect hknown rfl
    (fun _ _ _ _ h => (registry_addLink _ _ _).trans h) fun _ _ => rfl

end Kind

/-! ## Drawn nodes -/

@[simp] theorem Boxes.id_boxed (id : NodeId) (shape : Shape) (label : Text) :
    (Boxes.boxed id shape label).id = id := rfl

/-- The circle for the start or the end of a flow, like the box in its place, has the identifier it is
drawn for. -/
theorem Boxes.id_terminal?_getD {id : NodeId} {label : Text} {box : Node} (hbox : box.id = id) :
    ((Boxes.terminal? id label).getD box).id = id := by
  unfold Boxes.terminal?
  split
  · rfl
  · split
    · rfl
    · exact hbox

/-- In every dialect a bracket is drawn as a node with the identifier it is given. -/
theorem Kind.id_draw {kind : Kind} {dialect : GraphDialect}
    (hdialect : kind.graphDialect? = some dialect) (direction : Direction) (id : NodeId)
    (bracket : NodeExpr) : (dialect.draw direction id bracket).id = id := by
  cases kind <;> cases hdialect
  case classes =>
    show (Classes.draw direction id bracket).id = id
    unfold Classes.draw
    split <;> simp
  case useCase =>
    show (UseCases.draw direction id bracket).id = id
    unfold UseCases.draw
    split <;> simp
  case activity =>
    show (Activities.draw direction id bracket).id = id
    unfold Activities.draw
    split
    · exact Boxes.id_terminal?_getD (by simp)
    · rfl
    · simp [Activities.barNode]
    · simp
    · simp
  case state =>
    show (States.draw direction id bracket).id = id
    unfold States.draw
    split
    · exact Boxes.id_terminal?_getD (by simp)
    · simp
    · simp
  case deployment => exact Node.id_withFill _ _
  case package => exact Node.id_withFill _ _

/-! ## Lines -/

/-- Once the brackets of a line are declared, all of them are known. -/
theorem Draft.knows_of_mem_line {draft : Draft} {seen : List NodeExpr}
    (draw : Direction → NodeId → NodeExpr → Node)
    (h : draft.registry.names = recordNames seen) (exprs : List Expr) :
    ∀ bracket ∈ Expr.nodes exprs, (draft.declareAll draw exprs).Knows bracket := by
  intro bracket hbracket
  rw [Draft.Knows, Draft.names_declareAll draw h, mem_recordNames]
  exact ⟨bracket, List.mem_append_right _ hbracket, rfl⟩

namespace GraphDialect

variable {kind : Kind} {dialect : GraphDialect} {draft : Draft} {seen : List NodeExpr}

/-- A line adds the record names of its brackets. -/
theorem names_addLine (hdialect : kind.graphDialect? = some dialect)
    (h : draft.registry.names = recordNames seen) (line : List Expr) :
    (dialect.addLine draft line).registry.names = recordNames (seen ++ Expr.nodes line) := by
  rw [addLine, Kind.registry_connect hdialect (Draft.knows_of_mem_line _ h line),
    Draft.names_declareAll _ h]

/-- **The names after some lines** are the record names of their brackets. -/
theorem names_foldl_addLine (hdialect : kind.graphDialect? = some dialect)
    (h : draft.registry.names = recordNames seen) (lines : List (List Expr)) :
    (lines.foldl dialect.addLine draft).registry.names =
      recordNames (seen ++ Expr.brackets lines) := by
  induction lines generalizing draft seen with
  | nil => simpa using h
  | cons line rest ih =>
    rw [List.foldl_cons, ih (names_addLine hdialect h line), List.append_assoc]
    rfl

end GraphDialect

/-- The graph of an artifact, if there is one. -/
def Artifact.graph? : Artifact → Option Graph
  | .graph drawn => some drawn
  | _ => none

/-- A value that is found at the graph of a result is found at an artifact that is that graph. -/
theorem Artifact.exists_of_map_graph? {ε α : Type} {result : Except ε Artifact} {f : Graph → α}
    {value : α} (h : result.map (fun artifact => artifact.graph?.map f) = .ok (some value)) :
    ∃ graph, result = .ok (.graph graph) ∧ f graph = value := by
  cases result with
  | error failure => cases h
  | ok artifact =>
    cases artifact with
    | empty => cases h
    | sequence model => cases h
    | graph drawn => exact ⟨drawn, rfl, Option.some.inj (Except.ok.inj h)⟩

/-- A list of lines that compiles to a graph has been read as a whole, and the graph is drawn by the
rules of its dialect. -/
theorem Kind.graph_of_compileLines {kind : Kind} {direction : Direction} {lines : List SourceLine}
    {graph : Graph} (h : kind.compileLines direction lines = .ok (.graph graph)) :
    ∃ dialect read, kind.graphDialect? = some dialect ∧ lines.mapM kind.parseLine = .ok read ∧
      graph = (read.foldl dialect.addLine (.empty ⟨dialect.rankSep, direction⟩)).graph := by
  unfold compileLines at h
  cases hread : lines.mapM kind.parseLine with
  | error failure => simp [hread, Except.map] at h
  | ok read =>
    rw [hread] at h
    have hartifact : kind.artifactOf direction read = .graph graph := Except.ok.inj h
    unfold artifactOf at hartifact
    split at hartifact
    · rename_i dialect hdialect
      exact ⟨dialect, read, hdialect, rfl, (Artifact.graph.inj hartifact).symm⟩
    · simp at hartifact

end UmlSketch
