import UmlSketch.Graph.Basic

/-! # Graphs under construction
A dialect whose diagrams are graphs says how a bracket is drawn and how the brackets of a line are
connected. The lines are taken one after the other: first every bracket with a new record name
becomes a node, then the edges of the line are added. -/

namespace UmlSketch

/-- A **graph under construction**, with the names of its boxes. -/
structure Draft where
  /-- The names declared so far. -/
  registry : Registry
  /-- The statements made so far. -/
  graph : Graph
  deriving DecidableEq, Repr

/-- The rules of a **dialect whose diagrams are graphs**. -/
structure GraphDialect where
  /-- The distance between ranks, in inches. -/
  rankSep : Decimal
  /-- The node for a bracket with a new record name. -/
  draw : Direction → NodeId → NodeExpr → Node
  /-- Adds the edges of a line whose brackets are declared. -/
  connect : Draft → List Expr → Draft

namespace Draft

/-- The draft without statements. -/
def empty (settings : GraphSettings) : Draft := ⟨.empty, { settings }⟩

/-- The identifier of a bracket's node. -/
def id? (draft : Draft) (node : NodeExpr) : Option NodeId := draft.registry.get? node.label

/-- Declares the node of a bracket if its record name is new. -/
def declare (draw : Direction → NodeId → NodeExpr → Node) (draft : Draft) (node : NodeExpr) :
    Draft :=
  match draft.registry.create node.label with
  | (registry, some id) =>
    ⟨registry, draft.graph.addNode (draw draft.graph.settings.direction id node)⟩
  | (_, none) => draft

/-- Declares the nodes of a line. -/
def declareAll (draw : Direction → NodeId → NodeExpr → Node) (draft : Draft) (exprs : List Expr) :
    Draft :=
  (Expr.nodes exprs).foldl (declare draw) draft

/-- Adds an edge. -/
def addEdge (draft : Draft) (edge : Edge) : Draft :=
  { draft with graph := draft.graph.addEdge edge }

/-- The edge between two declared brackets; it is dashed if one of them is a note. -/
def edgeBetween? (draft : Draft) (source : NodeExpr) (edge : EdgeExpr) (target : NodeExpr) :
    Option Edge :=
  (draft.id? source).bind fun sourceId =>
    (draft.id? target).map fun targetId =>
      { source := { node := sourceId }
        target := { node := targetId }
        tail := edge.tail
        head := edge.head
        label := edge.label
        tailLabel := edge.tailLabel
        headLabel := edge.headLabel
        line := if source.isNote || target.isNote then .dashed else edge.line
        fontSize := some (.ofNat 10) }

/-- Adds an edge for every connector that stands directly between two brackets: `finish` completes
the edge and `place` adds it. -/
def connectAll (finish : NodeExpr → NodeExpr → Edge → Edge)
    (place : Draft → NodeExpr → Edge → Draft) (draft : Draft) (exprs : List Expr) : Draft :=
  (Expr.sandwiched exprs).foldl
    (fun draft (source, edge, target) =>
      match draft.edgeBetween? source edge target with
      | some edge => place draft target (finish source target edge)
      | none => draft)
    draft

/-- Adds an edge for every connector between two brackets, its end labels at the given distance. -/
def connectAt (labelDistance : Decimal) : Draft → List Expr → Draft :=
  connectAll (fun _ _ edge => { edge with labelDistance := some labelDistance })
    (fun draft _ edge => draft.addEdge edge)

end Draft

namespace GraphDialect

/-- Adds the nodes and edges of a line. -/
def addLine (dialect : GraphDialect) (draft : Draft) (exprs : List Expr) : Draft :=
  dialect.connect (draft.declareAll dialect.draw exprs) exprs

/-- The graph of a list of lines. -/
def graphOf (dialect : GraphDialect) (direction : Direction) (lines : List (List Expr)) : Graph :=
  (lines.foldl dialect.addLine (.empty ⟨dialect.rankSep, direction⟩)).graph

end GraphDialect

end UmlSketch
