import UmlSketch.Dialect.Reading
import UmlSketch.Registry
import UmlSketch.Sequence.Model

/-! # Sequence diagrams
Objects stand in square brackets. A message between two objects is a text that ends with an arrow, `>`,
`.>` or `>>`; a round bracket before the text or after the arrow opens or closes the focus of control
at that end. A message or a dash in front of a note attaches the note to the object on its left. -/

namespace UmlSketch.Sequences

/-! ## Reading -/

/-- Whether a text occurs in another. -/
def contains (pattern text : Text) : Bool := (Text.splitFirst pattern text).isSome

/-- How a message is sent: the arrow is looked for in the whole token. -/
def styleOf (text : Text) : MessageStyle :=
  if contains ['>', '>'] text then .async
  else if contains ['.', '>'] text then .dashed
  else .solid

/-- Takes the arrow off the end of a message that is read backwards: `>` with a `.` or another `>`
before it. -/
def dropArrow? (reversed : Text) : Option Text :=
  match reversed with
  | '>' :: '.' :: rest | '>' :: '>' :: rest => some rest
  | '>' :: rest => some rest
  | _ => none

/-- Splits a message without its first marker into the text before the arrow and the marker after
it. -/
def splitArrow? (body : Text) : Option (Text × Option Activation) :=
  match body.reverse with
  | [] => none
  | c :: rest =>
    match Activation.ofMarker? c with
    | some activation => (dropArrow? rest).map fun before => (before.reverse, some activation)
    | none => (dropArrow? (c :: rest)).map fun before => (before.reverse, none)

/-- Reads a message. -/
def signal (token : Token) : Except TokenError Expr :=
  let source := token.text.head?.bind Activation.ofMarker?
  let body := if source.isSome then token.text.tail else token.text
  match splitArrow? body with
  | some (text, target) =>
    .ok (.signal ⟨Text.trim text, styleOf token.text, source, target, token.span⟩)
  | none => .error (.malformedMessage token)

/-- Reads a token of a sequence diagram. -/
def readToken (token : Token) : Except TokenError Expr :=
  match token.enclosed? '[' ']' with
  | some content => .ok (Reading.recordOrNote content token.span)
  | none =>
    if token.text.contains '>' then signal token
    else if token.text = ['-'] then .ok (.edge { span := token.span })
    else .error (.unrecognized .sequence token)

/-! ## Building the diagram -/

/-- A **sequence diagram under construction**, with the names of its participants. -/
structure Script where
  /-- The names declared so far. -/
  registry : Registry
  /-- The positions of the participants, by the identifiers of their names. -/
  positions : List (NodeId × Nat)
  /-- The diagram so far. -/
  model : SequenceModel
  deriving DecidableEq, Repr

/-- The position of the participant that an object stands for, if it has been declared. -/
def Script.position? (script : Script) (object : NodeExpr) : Option Nat :=
  (script.registry.get? object.label).bind fun id => script.positions.lookup id

/-- The line and the arrow of a message. -/
def strokeOf : MessageStyle → LineStyle × ArrowHead
  | .solid => (.solid, .filled)
  | .dashed => (.dashed, .filled)
  | .async => (.solid, .open)

/-- The note on the right of an object. -/
def noteOf? (script : Script) (left right : NodeExpr) : Option Event :=
  if left.role = .record ∧ right.role = .note then
    (script.position? left).map fun participant =>
      .note ⟨participant, Label.plain right.label Label.width, right.fill⟩
  else none

/-- The message between two objects. -/
def messageOf? (script : Script) (left : NodeExpr) (signal : SignalExpr) (right : NodeExpr) :
    Option Event :=
  if left.role = .record ∧ right.role = .record then
    (script.position? left).bind fun source =>
      (script.position? right).map fun target =>
        let (line, arrow) := strokeOf signal.style
        .message ⟨source, target, signal.text, line, arrow, signal.source, signal.target⟩
  else none

/-- The event that three neighbours of a line stand for: a message between two objects, or a note
beside an object. -/
def eventOf? (script : Script) : Expr → Expr → Expr → Option Event
  | .node left, .signal signal, .node right =>
    (messageOf? script left signal right).or (noteOf? script left right)
  | .node left, .edge _, .node right => noteOf? script left right
  | _, _, _ => none

/-- The events of a line, from left to right. -/
def eventsOf (script : Script) : List Expr → List Event
  | first :: second :: third :: rest =>
    (eventOf? script first second third).toList ++ eventsOf script (second :: third :: rest)
  | _ => []

namespace Script

/-- The script without participants. -/
def empty : Script := ⟨.empty, [], {}⟩

/-- Declares an object if its record name is new. -/
def declare (script : Script) (node : NodeExpr) : Script :=
  match script.registry.create node.label with
  | (registry, some id) =>
    { registry
      positions := (id, script.model.participants.length) :: script.positions
      model := script.model.addParticipant
        ⟨Label.recordName node.label, Label.plain node.label Label.width, node.fill⟩ }
  | (_, none) => script

/-- Declares the objects of a line, then adds its events. -/
def addLine (script : Script) (exprs : List Expr) : Script :=
  let objects := (Expr.nodes exprs).filter fun node => node.role = .record
  let declared := objects.foldl declare script
  { declared with
    model := (eventsOf declared exprs).foldl SequenceModel.addEvent declared.model }

end Script

/-- The sequence diagram of a list of lines. -/
def modelOf (lines : List (List Expr)) : SequenceModel :=
  (lines.foldl Script.addLine .empty).model

end UmlSketch.Sequences
