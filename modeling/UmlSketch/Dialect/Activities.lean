import UmlSketch.Dialect.Boxes
import UmlSketch.Dialect.Draft
import UmlSketch.Dialect.Reading

/-! # Activity diagrams
Activities stand in round brackets, decisions in angle brackets, and a bar where parallel flows split
or meet between two `|`. Arrows have their label before them. Each arrow into a bar ends at a port of
its own, so that the flows meet the bar side by side. -/

namespace UmlSketch.Activities

/-- Reads a token of an activity diagram. -/
def readToken (token : Token) : Except TokenError Expr :=
  Reading.firstOf .activity token
    [(token.enclosed? '(' ')').map fun content => Reading.recordOrNote content token.span,
      (token.enclosed? '<' '>').map fun content => Reading.bareNode .decision content token.span,
      (token.enclosed? '|' '|').map fun content => Reading.bareNode .bar content token.span,
      Reading.arrow? token .solid, Reading.dash? token .solid]

/-- A bar across the direction of the ranks. -/
def barNode (direction : Direction) (id : NodeId) : Node :=
  let (height, width) : Decimal × Decimal :=
    if direction.isVertical then (.hundredths 5, .tenths 5) else (.tenths 5, .hundredths 5)
  ({ id, shape := .record, label := []
     height := some height
     width := some width
     margin := some (.ofNat 0, .ofNat 0)
     fontSize := some (.ofNat 1)
     penWidth := some (.ofNat 4) } : Node).withStyle .filled

/-- The node of an activity, a decision, a bar or a note. -/
def draw (direction : Direction) (id : NodeId) (node : NodeExpr) : Node :=
  let box (shape : Shape) : Node :=
    ((Boxes.boxed id shape (Label.escape node.label)).withStyle .rounded).withFill node.fill
  match node.role with
  | .record => (Boxes.terminal? id node.label).getD (box .rectangle)
  | .decision => Boxes.mark id .diamond (.tenths 5)
  | .bar => barNode direction id
  | .note => box .note
  | .actor => box .rectangle

/-- Adds an edge; one into a bar ends at a new port of the bar's node. -/
def place (draft : Draft) (target : NodeExpr) (edge : Edge) : Draft :=
  match target.role, draft.graph.node? edge.target.node with
  | .bar, some node =>
    let ended : Endpoint :=
      { node := edge.target.node
        port := some (Node.nextPort node.label)
        compass := some draft.graph.settings.direction.entryCompass }
    ({ draft with graph := draft.graph.addPort node.id }).addEdge { edge with target := ended }
  | _, _ => draft.addEdge edge

/-- The rules of activity diagrams. -/
def dialect : GraphDialect where
  rankSep := .tenths 5
  draw := draw
  connect :=
    Draft.connectAll (fun _ _ edge => { edge with labelDistance := some (.ofNat 1) }) place

end UmlSketch.Activities
