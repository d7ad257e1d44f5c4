import UmlSketch.Proofs.Draft.Ports

/-! # Edges into bars
Whether an edge ends at a port is decided by the bracket that its line has for the target, and what the
target looks like by the first bracket with its record name. As long as the two agree, ports are on bars
and on nothing else (`Graph.FansIn.portsOnBars_iff`). Where they do not, an activity is given a port in
its text, or an edge enters a bar without one. -/

namespace UmlSketch

/-! ## Ports on bars -/

/-- **How edges end at ports** in a graph that is drawn from some brackets and the links between them. -/
structure Graph.FansIn (graph : Graph) (direction : Direction) (brackets : List NodeExpr)
    (links : List (NodeExpr × EdgeExpr × NodeExpr)) : Prop where
  /-- A link becomes an edge into the node of its target, and ends at a port if the target is written
  as a bar. -/
  edges : graph.edges.map (fun edge => (edge.target.node, edge.target.port.isSome)) =
    links.map fun link =>
      (link.2.2.idIn (recordNames brackets), decide (link.2.2.role = .bar))
  /-- A node is as it was drawn from the bracket that declares it, but for a port for every edge that
  ends at one. -/
  drawn : ∀ node ∈ graph.nodes, ∃ bracket, bracket.Declares brackets node.id ∧
    node = Node.addPort^[(graph.portsInto node.id).length]
      (Activities.draw direction node.id bracket)

/-- Whether **ports are on bars only** in a graph that is drawn from some brackets. -/
structure Graph.PortsOnBars (graph : Graph) (direction : Direction) (brackets : List NodeExpr) :
    Prop where
  /-- An edge ends at a port exactly if the node it enters is declared by a bar. -/
  edges : ∀ edge ∈ graph.edges, edge.target.port.isSome ↔
    ∃ bracket : NodeExpr, bracket.Declares brackets edge.target.node ∧ bracket.role = .bar
  /-- A node that any other bracket declares keeps the label it is drawn with. -/
  labels : ∀ node ∈ graph.nodes, ∀ bracket : NodeExpr, bracket.Declares brackets node.id →
    bracket.role ≠ .bar → node.label = (Activities.draw direction node.id bracket).label

namespace Graph.FansIn

variable {graph : Graph} {direction : Direction} {brackets : List NodeExpr}
  {links : List (NodeExpr × EdgeExpr × NodeExpr)}

/-- Every edge comes from a link. -/
theorem exists_link (h : graph.FansIn direction brackets links) {edge : Edge}
    (hedge : edge ∈ graph.edges) :
    ∃ link ∈ links, link.2.2.idIn (recordNames brackets) = edge.target.node ∧
      (edge.target.port.isSome ↔ link.2.2.role = .bar) := by
  have hmem := List.mem_map_of_mem (f := fun edge : Edge =>
    (edge.target.node, edge.target.port.isSome)) hedge
  rw [h.edges] at hmem
  obtain ⟨link, hlink, heq⟩ := List.mem_map.mp hmem
  obtain ⟨hid, hport⟩ := Prod.mk.inj heq
  exact ⟨link, hlink, hid, by rw [← hport, decide_eq_true_eq]⟩

/-- Every link becomes an edge. -/
theorem exists_edge (h : graph.FansIn direction brackets links)
    {link : NodeExpr × EdgeExpr × NodeExpr} (hlink : link ∈ links) :
    ∃ edge ∈ graph.edges, edge.target.node = link.2.2.idIn (recordNames brackets) ∧
      (edge.target.port.isSome ↔ link.2.2.role = .bar) := by
  have hmem := List.mem_map_of_mem (f := fun link : NodeExpr × EdgeExpr × NodeExpr =>
    (link.2.2.idIn (recordNames brackets), decide (link.2.2.role = .bar))) hlink
  rw [← h.edges] at hmem
  obtain ⟨edge, hedge, heq⟩ := List.mem_map.mp hmem
  obtain ⟨hid, hport⟩ := Prod.mk.inj heq
  exact ⟨edge, hedge, hid, by rw [hport, decide_eq_true_eq]⟩

/-- **When ports are on bars only**: exactly if the target of each link is written as a bar where the
first bracket with its name is one. -/
theorem portsOnBars_iff (h : graph.FansIn direction brackets links)
    (hmem : ∀ link ∈ links, link.2.2 ∈ brackets) :
    graph.PortsOnBars direction brackets ↔
      ∀ link ∈ links, ∀ first, firstNamed? brackets link.2.2.name = some first →
        (link.2.2.role = .bar ↔ first.role = .bar) := by
  constructor
  · -- The edge of a link shows whether its target is declared by a bar.
    intro hports link hlink first hfirst
    have hdeclares := (NodeExpr.declares_idIn_iff (hmem link hlink)).mpr hfirst
    obtain ⟨edge, hedge, hid, hport⟩ := h.exists_edge hlink
    rw [← hport, hports.edges edge hedge, hid]
    constructor
    · rintro ⟨bracket, hbracket, hrole⟩
      rw [← hdeclares.unique hbracket]
      exact hrole
    · exact fun hrole => ⟨first, hdeclares, hrole⟩
  · intro hagree
    have hedges : ∀ edge ∈ graph.edges, edge.target.port.isSome ↔
        ∃ bracket : NodeExpr, bracket.Declares brackets edge.target.node ∧ bracket.role = .bar := by
      intro edge hedge
      obtain ⟨link, hlink, hid, hport⟩ := h.exists_link hedge
      obtain ⟨first, hdeclares⟩ := NodeExpr.exists_declares_idIn (hmem link hlink)
      have hfirst := (NodeExpr.declares_idIn_iff (hmem link hlink)).mp hdeclares
      rw [hport, hagree link hlink first hfirst, ← hid]
      constructor
      · exact fun hrole => ⟨first, hdeclares, hrole⟩
      · rintro ⟨bracket, hbracket, hrole⟩
        rw [← hdeclares.unique hbracket]
        exact hrole
    refine ⟨hedges, fun node hnode bracket hbracket hrole => ?_⟩
    -- No edge enters the node at a port, so none has been added to it.
    have hnone : graph.portsInto node.id = [] := by
      refine Graph.portsInto_eq_nil fun edge hedge hid => ?_
      rw [← Option.not_isSome_iff_eq_none, hedges edge hedge, hid]
      rintro ⟨other, hother, hbar⟩
      rw [hbracket.unique hother] at hbar
      exact hrole hbar
    obtain ⟨first, hfirst, hdrawn⟩ := h.drawn node hnode
    cases hbracket.unique hfirst
    rw [hnone] at hdrawn
    exact congrArg Node.label hdrawn

end Graph.FansIn

/-! ## The edges of a document -/

/-- The targets of links are brackets of their lines. -/
theorem Expr.target_mem_brackets {lines : List (List Expr)} {link : NodeExpr × EdgeExpr × NodeExpr}
    (h : link ∈ lines.flatMap links) : link.2.2 ∈ brackets lines := by
  obtain ⟨line, hline, hlink⟩ := List.mem_flatMap.mp h
  rw [← sandwiched_eq_links] at hlink
  obtain ⟨source, connector, target⟩ := link
  exact List.mem_flatMap.mpr ⟨line, hline, mem_nodes.mpr (mem_of_mem_sandwiched hlink).2.2⟩

/-- The edges of an activity diagram enter the targets of its links. -/
theorem Activities.targets_graphOf (direction : Direction) (lines : List (List Expr)) :
    (dialect.graphOf direction lines).edges.map (fun edge => edge.target.node) =
      (lines.flatMap Expr.links).map fun link =>
        link.2.2.idIn (recordNames (Expr.brackets lines)) := by
  have hedges : (dialect.graphOf direction lines).edges.map (Kind.withoutPort .activity) =
      lines.flatMap (Kind.lineEdges .activity (recordNames (Expr.brackets lines))) :=
    Kind.edgesOf_foldl_addLine (show Kind.graphDialect? .activity = some dialect from rfl)
      (Draft.names_empty ⟨dialect.rankSep, direction⟩) lines
  -- No line of an activity diagram is a qualified association.
  have hline (line : List Expr) :
      (Kind.lineEdges .activity (recordNames (Expr.brackets lines)) line).map
          (fun edge => edge.target.node) =
        (Expr.links line).map fun link => link.2.2.idIn (recordNames (Expr.brackets lines)) := by
    show ((Expr.links line).map _).map _ = _
    rw [List.map_map]
    rfl
  calc (dialect.graphOf direction lines).edges.map (fun edge => edge.target.node)
      = ((dialect.graphOf direction lines).edges.map (Kind.withoutPort .activity)).map
          (fun edge => edge.target.node) := by
        rw [List.map_map]
        rfl
    _ = (lines.flatMap Expr.links).map fun link =>
          link.2.2.idIn (recordNames (Expr.brackets lines)) := by
        rw [hedges, List.map_flatMap, List.map_flatMap]
        simp only [hline]

/-- **In the graph of an activity diagram** an edge ends at a port exactly if its target is written as a
bar, and only such edges change a node. -/
theorem Activities.fansIn_graphOf (direction : Direction) (lines : List (List Expr)) :
    (dialect.graphOf direction lines).FansIn direction (Expr.brackets lines)
      (lines.flatMap Expr.links) := by
  have hported := (Draft.Ported.empty ⟨dialect.rankSep, direction⟩).foldl_addLine lines
  refine ⟨?_, hported.drawn⟩
  rw [← List.zip_map', ← List.zip_map', targets_graphOf]
  exact congrArg _ hported.isSome_port

/-- **Which edges end at ports**: if the lines of an activity diagram compile to a graph, each link is an
edge that ends at a port exactly if its line has the target as a bar, and a node has one port for each
such edge and is otherwise as it was drawn. Ports are on bars only, exactly if the lines have a target as
a bar where the first bracket with its name is one. -/
theorem Kind.fansIn_of_compileLines {direction : Direction} {lines : List SourceLine} {graph : Graph}
    (h : Kind.compileLines .activity direction lines = .ok (.graph graph)) :
    ∃ read, lines.mapM (Kind.parseLine .activity) = .ok read ∧
      graph.FansIn direction (Expr.brackets read) (read.flatMap Expr.links) ∧
      (graph.PortsOnBars direction (Expr.brackets read) ↔
        ∀ link ∈ read.flatMap Expr.links, ∀ first,
          firstNamed? (Expr.brackets read) link.2.2.name = some first →
            (link.2.2.role = .bar ↔ first.role = .bar)) := by
  obtain ⟨dialect, read, hdialect, hread, rfl⟩ := Kind.graph_of_compileLines h
  cases hdialect
  have hfans := Activities.fansIn_graphOf direction read
  exact ⟨read, hread, hfans, hfans.portsOnBars_iff fun _ => Expr.target_mem_brackets⟩

/-- Two flows into a bar and one out of it. -/
theorem Kind.fansIn_of_compileLines_bar :
    ∃ graph, Kind.compileLines .activity .topDown
        [⟨"(a)->|b|".toList, 0⟩, ⟨"<c>->|b|->(d)".toList, 9⟩] = .ok (.graph graph) ∧
      graph.nodes.map (fun node => String.ofList node.label) = ["a", "<f1>|<f2>", "", "d"] ∧
      graph.edges.map (fun edge => String.ofList edge.target.render) =
        ["A1:f1:n", "A1:f2:n", "A3"] ∧
      ∃ read, List.mapM (Kind.parseLine .activity)
          [⟨"(a)->|b|".toList, 0⟩, ⟨"<c>->|b|->(d)".toList, 9⟩] = .ok read ∧
        graph.FansIn .topDown (Expr.brackets read) (read.flatMap Expr.links) ∧
        (graph.PortsOnBars .topDown (Expr.brackets read) ↔
          ∀ link ∈ read.flatMap Expr.links, ∀ first,
            firstNamed? (Expr.brackets read) link.2.2.name = some first →
              (link.2.2.role = .bar ↔ first.role = .bar)) := by
  have hgraph : (Kind.compileLines .activity .topDown
      [⟨"(a)->|b|".toList, 0⟩, ⟨"<c>->|b|->(d)".toList, 9⟩]).map
        (fun artifact => artifact.graph?.map fun graph =>
          (graph.nodes.map (fun node => String.ofList node.label),
            graph.edges.map (fun edge => String.ofList edge.target.render))) =
      .ok (some (["a", "<f1>|<f2>", "", "d"], ["A1:f1:n", "A1:f2:n", "A3"])) := by decide +kernel
  obtain ⟨graph, hcompiled, hparts⟩ := Artifact.exists_of_map_graph? hgraph
  obtain ⟨hlabels, htargets⟩ := Prod.mk.inj hparts
  exact ⟨graph, hcompiled, hlabels, htargets, Kind.fansIn_of_compileLines hcompiled⟩

/-- What is found at the graph and at the brackets of a document is found together. -/
theorem Kind.exists_graph_and_brackets {kind : Kind} {direction : Direction}
    {lines : List SourceLine} {α : Type} {f : Graph → α} {value : α} {brackets : List NodeExpr}
    (hgraph : (kind.compileLines direction lines).map (fun artifact => artifact.graph?.map f) =
      .ok (some value))
    (hbrackets : (lines.mapM kind.parseLine).map Expr.brackets = .ok brackets) :
    ∃ graph read, kind.compileLines direction lines = .ok (.graph graph) ∧
      lines.mapM kind.parseLine = .ok read ∧ f graph = value ∧ Expr.brackets read = brackets := by
  obtain ⟨graph, hcompiled, hvalue⟩ := Artifact.exists_of_map_graph? hgraph
  obtain ⟨-, read, -, hread, -⟩ := Kind.graph_of_compileLines hcompiled
  rw [hread] at hbrackets
  exact ⟨graph, read, hcompiled, hread, hvalue, Except.ok.inj hbrackets⟩

/-- **A bracket that is a bar where it is used and none where it is declared, or the other way round**: the
activity `(b)` gets a port in its text from an edge to `|b|`, and an edge to `(b)` enters the bar `|b|`
without a port. -/
theorem Kind.not_portsOnBars :
    (∃ graph read, Kind.compileLines .activity .topDown
        [⟨"(b)".toList, 0⟩, ⟨"(a)->|b|".toList, 4⟩] = .ok (.graph graph) ∧
      List.mapM (Kind.parseLine .activity) [⟨"(b)".toList, 0⟩, ⟨"(a)->|b|".toList, 4⟩] = .ok read ∧
      (∃ node ∈ graph.nodes, node.shape = .rectangle ∧ node.label = "b|<f2>".toList) ∧
      ¬ graph.PortsOnBars .topDown (Expr.brackets read)) ∧
    ∃ graph read, Kind.compileLines .activity .topDown
        [⟨"|b|".toList, 0⟩, ⟨"(a)->(b)".toList, 4⟩] = .ok (.graph graph) ∧
      List.mapM (Kind.parseLine .activity) [⟨"|b|".toList, 0⟩, ⟨"(a)->(b)".toList, 4⟩] = .ok read ∧
      (∃ edge ∈ graph.edges, edge.target = { node := .box 0 }) ∧
      ¬ graph.PortsOnBars .topDown (Expr.brackets read) := by
  constructor
  · have hnodes : (Kind.compileLines .activity .topDown
        [⟨"(b)".toList, 0⟩, ⟨"(a)->|b|".toList, 4⟩]).map
          (fun artifact => artifact.graph?.map fun graph =>
            graph.nodes.head?.map fun node => (node.id, node.shape, node.label)) =
        .ok (some (some (.box 0, .rectangle, "b|<f2>".toList))) := by decide +kernel
    have hbrackets : (List.mapM (Kind.parseLine .activity)
        [⟨"(b)".toList, 0⟩, ⟨"(a)->|b|".toList, 4⟩]).map Expr.brackets =
        .ok [⟨.record, ['b'], none, .between 0 3⟩, ⟨.record, ['a'], none, .between 4 7⟩,
          ⟨.bar, ['b'], none, .between 9 12⟩] := by decide +kernel
    obtain ⟨graph, read, hgraph, hread, hhead, hbrackets⟩ :=
      Kind.exists_graph_and_brackets hnodes hbrackets
    obtain ⟨node, hnode, hparts⟩ := Option.map_eq_some_iff.mp hhead
    obtain ⟨hid, hshape, hlabel⟩ : node.id = .box 0 ∧ node.shape = .rectangle ∧
        node.label = "b|<f2>".toList := by simpa using hparts
    have hmem := List.mem_of_head? hnode
    refine ⟨graph, read, hgraph, hread, ⟨node, hmem, hshape, hlabel⟩, fun hports => ?_⟩
    rw [hbrackets] at hports
    -- The first bracket named `b` is the activity, which is drawn with its text alone.
    have hkept := hports.labels node hmem ⟨.record, ['b'], none, .between 0 3⟩
      (by rw [hid]; decide +kernel) (by decide)
    rw [hlabel, hid] at hkept
    exact absurd hkept (by decide +kernel)
  · have hedges : (Kind.compileLines .activity .topDown
        [⟨"|b|".toList, 0⟩, ⟨"(a)->(b)".toList, 4⟩]).map
          (fun artifact => artifact.graph?.map fun graph =>
            graph.edges.head?.map fun edge => edge.target) =
        .ok (some (some { node := .box 0 })) := by decide +kernel
    have hbrackets : (List.mapM (Kind.parseLine .activity)
        [⟨"|b|".toList, 0⟩, ⟨"(a)->(b)".toList, 4⟩]).map Expr.brackets =
        .ok [⟨.bar, ['b'], none, .between 0 3⟩, ⟨.record, ['a'], none, .between 4 7⟩,
          ⟨.record, ['b'], none, .between 9 12⟩] := by decide +kernel
    obtain ⟨graph, read, hgraph, hread, hhead, hbrackets⟩ :=
      Kind.exists_graph_and_brackets hedges hbrackets
    obtain ⟨edge, hedge, htarget⟩ := Option.map_eq_some_iff.mp hhead
    have hmem := List.mem_of_head? hedge
    refine ⟨graph, read, hgraph, hread, ⟨edge, hmem, htarget⟩, fun hports => ?_⟩
    rw [hbrackets] at hports
    -- The first bracket named `b` is the bar, so the edge would have a port.
    have hentered := (hports.edges edge hmem).mpr
      ⟨⟨.bar, ['b'], none, .between 0 3⟩, by rw [htarget]; decide +kernel, rfl⟩
    rw [htarget] at hentered
    cases hentered

end UmlSketch
