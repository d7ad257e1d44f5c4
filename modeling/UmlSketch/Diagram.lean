import UmlSketch.Text.Basic

/-! # Kinds of diagram and directions
The notation has seven dialects, one for each kind of diagram. Six of them describe a graph that a
layout engine places in one of three directions; sequence diagrams are drawn directly. -/

namespace UmlSketch

/-- The **kind** of a diagram. -/
inductive Kind
  /-- Classes and their associations. -/
  | classes
  /-- Actors and use cases. -/
  | useCase
  /-- Activities, decisions and parallel bars. -/
  | activity
  /-- States and the events between them. -/
  | state
  /-- Nodes that software is deployed on. -/
  | deployment
  /-- Packages and their dependencies. -/
  | package
  /-- Objects that exchange messages. -/
  | sequence
  deriving DecidableEq, Repr

namespace Kind

/-- The name of a kind of diagram in a document. -/
def name : Kind → String
  | .classes => "class"
  | .useCase => "usecase"
  | .activity => "activity"
  | .state => "state"
  | .deployment => "deployment"
  | .package => "package"
  | .sequence => "sequence"

/-- All kinds of diagram. -/
def all : List Kind := [.classes, .useCase, .activity, .state, .deployment, .package, .sequence]

/-- The kind of diagram that a text names. -/
def ofText? (text : Text) : Option Kind := all.find? fun kind => kind.name.toList = text

/-- Whether a diagram of this kind is a graph for a layout engine. -/
def isGraph : Kind → Bool
  | .sequence => false
  | _ => true

/-- Every kind is read back from its name. -/
theorem ofText?_name (kind : Kind) : ofText? kind.name.toList = some kind := by
  cases kind <;> decide +kernel

end Kind

/-- The **direction** in which the ranks of a graph follow each other. -/
inductive Direction
  /-- From top to bottom. -/
  | topDown
  /-- From left to right. -/
  | leftToRight
  /-- From right to left. -/
  | rightToLeft
  deriving DecidableEq, Repr

namespace Direction

/-- The direction as a layout engine writes it. -/
def rankDir : Direction → String
  | .topDown => "TB"
  | .leftToRight => "LR"
  | .rightToLeft => "RL"

/-- The direction as a directive of a document writes it. -/
def directiveName : Direction → String
  | .topDown => "topDown"
  | .leftToRight => "leftToRight"
  | .rightToLeft => "rightToLeft"

/-- All directions. -/
def all : List Direction := [.topDown, .leftToRight, .rightToLeft]

/-- The direction that the value of a directive names. -/
def ofDirective? (text : Text) : Option Direction :=
  all.find? fun direction => direction.directiveName.toList = text

/-- The direction that a setting names, in either spelling. -/
def ofText? (text : Text) : Option Direction :=
  (all.find? fun direction => direction.rankDir.toList = text).or (ofDirective? text)

/-- Whether the ranks are stacked vertically. -/
def isVertical : Direction → Bool
  | .topDown => true
  | _ => false

/-- The compass point at which an edge enters a box: the side of the rank before. -/
def entryCompass : Direction → Text
  | .topDown => ['n']
  | .leftToRight => ['w']
  | .rightToLeft => ['e']

end Direction

end UmlSketch
