import UmlSketch.Expr

/-! # Sequences of messages
A sequence diagram is a list of participants and a list of events between them: messages from one
participant to another, and notes beside a participant. Events refer to participants by position. -/

namespace UmlSketch

/-- A **participant** of a sequence diagram. -/
structure Participant where
  /-- The name. -/
  name : Text
  /-- The label, with a line break between its lines. -/
  label : Text
  /-- The background of its box. -/
  fill : Option Fill
  deriving DecidableEq, Repr

/-- The head of a message's arrow. -/
inductive ArrowHead
  /-- A filled triangle. -/
  | filled
  /-- Two strokes. -/
  | open
  deriving DecidableEq, Repr

/-- The name of an arrow head in a drawing. -/
def ArrowHead.name : ArrowHead → String
  | .filled => "arrow-filled"
  | .open => "arrow-open"

/-- A **message** between two participants. -/
structure Message where
  /-- The position of the sender. -/
  source : Nat
  /-- The position of the receiver. -/
  target : Nat
  /-- The text above the arrow. -/
  text : Text
  /-- How the line is drawn. -/
  line : LineStyle
  /-- The head of the arrow. -/
  arrow : ArrowHead
  /-- What the sender does with its focus. -/
  sourceActivation : Option Activation
  /-- What the receiver does with its focus. -/
  targetActivation : Option Activation
  deriving DecidableEq, Repr

/-- Whether a message returns to its sender. -/
def Message.isSelf (message : Message) : Bool := message.source = message.target

/-- A **note** beside a participant. -/
structure SideNote where
  /-- The position of the participant. -/
  participant : Nat
  /-- The text, with a line break between its lines. -/
  text : Text
  /-- The background of the note. -/
  fill : Option Fill
  deriving DecidableEq, Repr

/-- An **event** of a sequence diagram. -/
inductive Event
  /-- A message is sent. -/
  | message (message : Message)
  /-- A note is shown. -/
  | note (note : SideNote)
  deriving DecidableEq, Repr

/-- A **sequence diagram**. -/
structure SequenceModel where
  /-- The participants, from left to right. -/
  participants : List Participant := []
  /-- The events, from top to bottom. -/
  events : List Event := []
  deriving DecidableEq, Repr

namespace SequenceModel

/-- Adds a participant on the right. -/
def addParticipant (model : SequenceModel) (participant : Participant) : SequenceModel :=
  { model with participants := model.participants ++ [participant] }

/-- Adds an event at the bottom. -/
def addEvent (model : SequenceModel) (event : Event) : SequenceModel :=
  { model with events := model.events ++ [event] }

/-- Whether a diagram has no participants. -/
def isEmpty (model : SequenceModel) : Bool := model.participants.isEmpty

@[simp] theorem participants_addParticipant (model : SequenceModel) (participant : Participant) :
    (model.addParticipant participant).participants = model.participants ++ [participant] := rfl

@[simp] theorem events_addParticipant (model : SequenceModel) (participant : Participant) :
    (model.addParticipant participant).events = model.events := rfl

@[simp] theorem participants_addEvent (model : SequenceModel) (event : Event) :
    (model.addEvent event).participants = model.participants := rfl

@[simp] theorem events_addEvent (model : SequenceModel) (event : Event) :
    (model.addEvent event).events = model.events ++ [event] := rfl

end SequenceModel

end UmlSketch
