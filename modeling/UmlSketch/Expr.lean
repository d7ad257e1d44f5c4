import UmlSketch.Color.Fill
import UmlSketch.Span

/-! # Expressions
Each token of a line stands for a box, for an edge between boxes or for a message between objects.
The shapes of arrows and lines, which the diagrams share, are defined here as well. -/

namespace UmlSketch

/-- The shape at an end of an edge. -/
inductive ArrowKind
  /-- No arrow. -/
  | none
  /-- An open arrow. -/
  | vee
  /-- A hollow triangle. -/
  | empty
  /-- A filled diamond. -/
  | diamond
  /-- A hollow diamond. -/
  | hollowDiamond
  deriving DecidableEq, Repr

/-- The name of an arrow in a graph description. -/
def ArrowKind.name : ArrowKind → String
  | .none => "none"
  | .vee => "vee"
  | .empty => "empty"
  | .diamond => "diamond"
  | .hollowDiamond => "odiamond"

/-- How a line is drawn. -/
inductive LineStyle
  /-- Without gaps. -/
  | solid
  /-- With gaps. -/
  | dashed
  deriving DecidableEq, Repr

/-- The name of a line style in a graph description. -/
def LineStyle.name : LineStyle → String
  | .solid => "solid"
  | .dashed => "dashed"

/-- What an object of a sequence diagram does with its focus of control at a message. -/
inductive Activation
  /-- It gains the focus. -/
  | opens
  /-- It gives the focus back. -/
  | closes
  deriving DecidableEq, Repr

/-- The activation that a marker at an end of a message stands for. -/
def Activation.ofMarker? (marker : Char) : Option Activation :=
  if marker = '(' then some .opens else if marker = ')' then some .closes else none

/-- What a bracket stands for. -/
inductive Role
  /-- A box of the diagram. -/
  | record
  /-- A note. -/
  | note
  /-- A person or system outside. -/
  | actor
  /-- A decision. -/
  | decision
  /-- A bar where parallel flows split or meet. -/
  | bar
  deriving DecidableEq, Repr

/-- A bracket of a line. -/
structure NodeExpr where
  /-- What the bracket stands for. -/
  role : Role
  /-- The text in the bracket. -/
  label : Text
  /-- The background color it asks for. -/
  fill : Option Fill
  /-- Where it stands. -/
  span : Span
  deriving DecidableEq, Repr

/-- Whether a bracket is a note. -/
def NodeExpr.isNote (node : NodeExpr) : Bool := node.role = .note

/-- A connector between two brackets of a line. -/
structure EdgeExpr where
  /-- The arrow at the left end. -/
  tail : ArrowKind := .none
  /-- The arrow at the right end. -/
  head : ArrowKind := .none
  /-- The text in the middle. -/
  label : Option Text := none
  /-- The text at the left end. -/
  tailLabel : Option Text := none
  /-- The text at the right end. -/
  headLabel : Option Text := none
  /-- How the line is drawn. -/
  line : LineStyle := .solid
  /-- Where it stands. -/
  span : Span
  deriving DecidableEq, Repr

/-- How a message is sent. -/
inductive MessageStyle
  /-- A call. -/
  | solid
  /-- An answer. -/
  | dashed
  /-- A message that is not waited for. -/
  | async
  deriving DecidableEq, Repr

/-- A message between two objects. -/
structure SignalExpr where
  /-- The text of the message. -/
  text : Text
  /-- How the message is sent. -/
  style : MessageStyle
  /-- What the sender does with its focus. -/
  source : Option Activation
  /-- What the receiver does with its focus. -/
  target : Option Activation
  /-- Where it stands. -/
  span : Span
  deriving DecidableEq, Repr

/-- An **expression**: what a token stands for. -/
inductive Expr
  /-- A bracket. -/
  | node (node : NodeExpr)
  /-- A connector. -/
  | edge (edge : EdgeExpr)
  /-- A message. -/
  | signal (signal : SignalExpr)
  deriving DecidableEq, Repr

namespace Expr

/-- Whether an expression stands between brackets. -/
def isConnector : Expr → Bool
  | .node _ => false
  | _ => true

/-- The bracket, if the expression is one. -/
def node? : Expr → Option NodeExpr
  | .node bracket => some bracket
  | _ => none

/-- The brackets of a line, from left to right. -/
def nodes (exprs : List Expr) : List NodeExpr := exprs.filterMap node?

/-- The edges of a line that stand directly between two brackets, with these. -/
def sandwiched : List Expr → List (NodeExpr × EdgeExpr × NodeExpr)
  | [] => []
  | first :: rest =>
    match first, rest with
    | .node source, .edge link :: .node target :: _ => (source, link, target) :: sandwiched rest
    | _, _ => sandwiched rest

end Expr

/-- The text trimmed, if that leaves anything. -/
def nonEmptyLabel? (text : Text) : Option Text :=
  if Text.trim text = [] then none else some (Text.trim text)

end UmlSketch
