import UmlSketch.Dialect.Activities
import UmlSketch.Dialect.Classes
import UmlSketch.Dialect.Deployments
import UmlSketch.Dialect.Packages
import UmlSketch.Dialect.Sequences
import UmlSketch.Dialect.States
import UmlSketch.Dialect.UseCases

/-! # The dialects
Each kind of diagram has its dialect: the characters that open a bracket and a reader of tokens, and
either the rules of a graph or those of a sequence diagram. All lines are read before anything is
drawn, so the first token that is rejected decides how a list of lines fails. -/

namespace UmlSketch

/-- A line of a document and the position where it starts. -/
structure SourceLine where
  /-- The line. -/
  text : Text
  /-- The position of its first byte. -/
  offset : Nat
  deriving DecidableEq, Repr

/-- What the lines of a document describe. -/
inductive Artifact
  /-- There are no lines. -/
  | empty
  /-- A graph for a layout engine. -/
  | graph (graph : Graph)
  /-- A sequence diagram. -/
  | sequence (model : SequenceModel)
  deriving DecidableEq, Repr

namespace Kind

/-- The characters that open a bracket. -/
def openers : Kind → Text
  | .classes | .deployment | .package | .sequence => ['[']
  | .useCase => ['[', '(']
  | .activity => ['(', '<', '|']
  | .state => ['(']

/-- Reads a token. -/
def readToken : Kind → Token → Except TokenError Expr
  | .classes => Classes.readToken
  | .useCase => UseCases.readToken
  | .activity => Activities.readToken
  | .state => States.readToken
  | .deployment => Deployments.readToken
  | .package => Packages.readToken
  | .sequence => Sequences.readToken

/-- The rules by which a graph is drawn, if the diagrams are graphs. -/
def graphDialect? : Kind → Option GraphDialect
  | .classes => some Classes.dialect
  | .useCase => some UseCases.dialect
  | .activity => some Activities.dialect
  | .state => some States.dialect
  | .deployment => some Deployments.dialect
  | .package => some Packages.dialect
  | .sequence => none

/-- The expressions of a line. -/
def parseLine (kind : Kind) (line : SourceLine) : Except TokenError (List Expr) :=
  (tokenize kind.openers line.text line.offset).mapM kind.readToken

/-- The diagram of a list of lines that have been read. -/
def artifactOf (kind : Kind) (direction : Direction) (lines : List (List Expr)) : Artifact :=
  match kind.graphDialect? with
  | some dialect => .graph (dialect.graphOf direction lines)
  | none => .sequence (Sequences.modelOf lines)

/-- The diagram of a list of lines. -/
def compileLines (kind : Kind) (direction : Direction) (lines : List SourceLine) :
    Except TokenError Artifact :=
  (lines.mapM kind.parseLine).map (kind.artifactOf direction)

end Kind

end UmlSketch
