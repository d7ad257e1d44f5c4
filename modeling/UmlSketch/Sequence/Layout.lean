import UmlSketch.Sequence.Model

/-! # Layout of sequence diagrams
Participants are columns from left to right and events are rows from top to bottom. The extent of a text
is estimated from the number of its characters. Every event asks for a distance between the centers
of two columns; a message to its own sender and a note ask for it between their column and the next
one. The columns are placed from left to right, each as far left as the columns before it allow.

The arithmetic is a parameter, so that the same layout is computed with the numbers of a drawing and
with exact ones. -/

namespace UmlSketch

variable {α : Type} [Add α] [Sub α] [Mul α] [Div α] [Max α] [NatCast α]

/-! ## Measures -/

namespace Measure

/-- The margin around the diagram. -/
def diagramMargin : α := (10 : Nat)

/-- The margin around the box of a participant. -/
def actorMargin : α := (10 : Nat)

/-- The space between the box of a participant and its text. -/
def actorPadding : α := (10 : Nat)

/-- The margin around a message. -/
def signalMargin : α := (5 : Nat)

/-- The space between a message's line and its text. -/
def signalPadding : α := (5 : Nat)

/-- The margin around a note. -/
def noteMargin : α := (10 : Nat)

/-- The space between a note's outline and its text. -/
def notePadding : α := (5 : Nat)

/-- How far a message to its own sender loops out of the lifeline. -/
def selfSignalWidth : α := (20 : Nat)

/-- The height of a line of text. -/
def lineHeight : α := (18 : Nat)

/-- The estimated width of a character. -/
def charWidth : α := (17 : Nat) / (2 : Nat)

/-- The width of an activation box. -/
def activationWidth : α := (10 : Nat)

/-- How far each nested activation box is moved to the right. -/
def activationNesting : α := (5 : Nat)

/-- Two of a length. -/
def twice (length : α) : α := (2 : Nat) * length

/-- A half of a length. -/
def half (length : α) : α := length / (2 : Nat)

end Measure

open UmlSketch.Measure

/-- The estimated extent of a text. -/
structure TextSize (α : Type) where
  /-- The width of the longest line. -/
  width : α
  /-- The height of all lines. -/
  height : α
  deriving DecidableEq, Repr

/-- Measures a text by its lines and the characters of the longest one. -/
def TextSize.of (text : Text) : TextSize α :=
  let lines := Text.fields '\n' text
  let longest := (lines.map List.length).foldl max 0
  ⟨charWidth * (longest : Nat), lineHeight * (lines.length : Nat)⟩

/-! ## Parts of a layout -/

/-- The **column** of a participant. -/
structure Column (α : Type) where
  /-- The left edge. -/
  x : α
  /-- The width, margins included. -/
  width : α
  /-- The extent of the label. -/
  text : TextSize α
  deriving DecidableEq, Repr

/-- The middle of a column, where the lifeline runs. -/
def Column.center (column : Column α) : α := column.x + half column.width

/-- The **row** of an event. -/
structure Row (α : Type) where
  /-- The top edge. -/
  y : α
  /-- The width that the event asks for, margins included. -/
  width : α
  /-- The height, margins included. -/
  height : α
  /-- The extent of the text. -/
  text : TextSize α
  deriving DecidableEq, Repr

/-- The height at which the line of a message runs. -/
def Row.signalY (row : Row α) : α := row.y + row.height - signalMargin - signalPadding

/-- The time during which a participant has the focus of control. -/
structure ActivationBox (α : Type) where
  /-- The position of the participant. -/
  participant : Nat
  /-- How many boxes this one is nested in. -/
  level : Nat
  /-- The top edge. -/
  top : α
  /-- The bottom edge. -/
  bottom : α
  deriving DecidableEq, Repr

/-- The left edge of an activation box on a lifeline. -/
def ActivationBox.x (box : ActivationBox α) (center : α) : α :=
  center - half activationWidth + (box.level : Nat) * activationNesting

/-- The **layout** of a sequence diagram. -/
structure Layout (α : Type) where
  /-- The columns, one for each participant. -/
  columns : List (Column α)
  /-- The rows, one for each event. -/
  rows : List (Row α)
  /-- The activation boxes, the outer ones first. -/
  activations : List (ActivationBox α) := []
  /-- The height of the boxes of the participants, margins included. -/
  actorsHeight : α
  /-- The height of all rows. -/
  signalsHeight : α
  /-- The width of the drawing. -/
  width : α
  /-- The height of the drawing. -/
  height : α
  deriving DecidableEq, Repr

namespace Layout

/-- The top of the upper boxes of the participants. -/
def topActorsY (_ : Layout α) : α := diagramMargin

/-- The top of the lower boxes of the participants. -/
def bottomActorsY (layout : Layout α) : α :=
  diagramMargin + layout.actorsHeight + layout.signalsHeight

/-- The top of the lifelines. -/
def lifelineStart (layout : Layout α) : α := diagramMargin + layout.actorsHeight - actorMargin

/-- The bottom of the lifelines. -/
def lifelineEnd (layout : Layout α) : α :=
  layout.lifelineStart + twice actorMargin + layout.signalsHeight

end Layout

/-! ## Columns -/

/-- A **distance** that an event asks for between the centers of two columns. -/
structure Gap (α : Type) where
  /-- The position of the left column. -/
  left : Nat
  /-- The position of the right column; there may be none on the right of the last column. -/
  right : Nat
  /-- The distance. -/
  distance : α
  deriving DecidableEq, Repr

namespace Gap

/-- The left edge that a gap asks of its right column, once its left column is placed. -/
def pushes (gap : Gap α) (leftColumn column : Column α) : α :=
  let distance := max (max gap.distance (half leftColumn.width)) (half column.width)
  leftColumn.x + half leftColumn.width + distance - half column.width

/-- The room that the gaps ask for on the right of a column that has no neighbour there. -/
def padding (gaps : List (Gap α)) (count left : Nat) : α :=
  ((gaps.filter fun gap => gap.left = left && count ≤ gap.right).map Gap.distance).foldl max
    (0 : Nat)

end Gap

namespace Column

/-- Places the column that follows the placed ones: at the right edge of the last one, or further to
the right if a gap to a placed column asks for it. -/
def placeNext (gaps : List (Gap α)) (placed : List (Column α)) (rightEdge : α)
    (column : Column α) : Column α :=
  let pushed := gaps.filterMap fun gap =>
    if gap.right = placed.length then
      placed[gap.left]?.map fun leftColumn => gap.pushes leftColumn column
    else none
  { column with x := max (pushed.foldl max (0 : Nat)) rightEdge }

/-- Places the rest of the columns after the placed ones; the second part is the right edge of the
last one, with the room asked for on its right. -/
def placeFrom (gaps : List (Gap α)) (count : Nat) (placed : List (Column α)) (rightEdge : α) :
    List (Column α) → List (Column α) × α
  | [] => (placed, rightEdge)
  | column :: rest =>
    let column := placeNext gaps placed rightEdge column
    let edge := column.x + column.width + Gap.padding gaps count placed.length
    placeFrom gaps count (placed ++ [column]) edge rest

/-- Places all columns. -/
def placeAll (gaps : List (Gap α)) (columns : List (Column α)) : List (Column α) × α :=
  placeFrom gaps columns.length [] (0 : Nat) columns

/-- The column of a participant before it is placed. -/
def ofParticipant (participant : Participant) : Column α :=
  let text := TextSize.of participant.label
  ⟨(0 : Nat), text.width + (actorPadding + actorMargin) * (2 : Nat), text⟩

end Column

/-- The height of the boxes of all participants, margins included. -/
def actorsHeight (participants : List Participant) : α :=
  (participants.map fun participant =>
    (TextSize.of participant.label : TextSize α).height +
      (actorPadding + actorMargin) * (2 : Nat)).foldl max (0 : Nat)

/-! ## Rows -/

/-- What an event asks for: its extent and a gap. -/
structure MeasuredEvent (α : Type) where
  /-- The extent of the text. -/
  text : TextSize α
  /-- The width, margins included. -/
  width : α
  /-- The height, margins included. -/
  height : α
  /-- The gap. -/
  gap : Gap α
  deriving DecidableEq, Repr

/-- Measures an event. -/
def Event.measure : Event → MeasuredEvent α
  | .message sent =>
    let text : TextSize α := .of sent.text
    let width := text.width + (signalMargin + signalPadding) * (2 : Nat)
    let height := text.height + (signalMargin + signalPadding) * (2 : Nat)
    if sent.isSelf then
      let width := width + selfSignalWidth
      ⟨text, width, height, ⟨sent.source, sent.source + 1, width⟩⟩
    else
      ⟨text, width, height, ⟨min sent.source sent.target, max sent.source sent.target, width⟩⟩
  | .note shown =>
    let text : TextSize α := .of shown.text
    let width := text.width + (noteMargin + notePadding) * (2 : Nat)
    let height := text.height + (noteMargin + notePadding) * (2 : Nat)
    ⟨text, width, height, ⟨shown.participant, shown.participant + 1, width + twice actorMargin⟩⟩

/-- The rows of a list of events, when `above` is the height of the rows before them. The second part
is the height of all rows. -/
def Row.stack (top above : α) : List (MeasuredEvent α) → List (Row α) × α
  | [] => ([], above)
  | event :: rest =>
    let (rows, height) := stack top (above + event.height) rest
    (⟨top + above, event.width, event.height, event.text⟩ :: rows, height)

/-! ## Activations -/

/-- A change of the focus of control of a participant at some height. -/
structure FocusMark (α : Type) where
  /-- The position of the participant. -/
  participant : Nat
  /-- What happens. -/
  activation : Activation
  /-- At which height it happens. -/
  y : α
  deriving DecidableEq, Repr

namespace FocusMark

/-- The marks of an event: that of the sender, then that of the receiver. -/
def ofEvent (event : Event) (row : Row α) : List (FocusMark α) :=
  match event with
  | .note _ => []
  | .message message =>
    let (sourceY, targetY) :=
      if message.isSelf then (row.y + signalMargin, row.y + row.height)
      else (row.signalY, row.signalY)
    (message.sourceActivation.map fun activation =>
        (⟨message.source, activation, sourceY⟩ : FocusMark α)).toList ++
      (message.targetActivation.map fun activation =>
        (⟨message.target, activation, targetY⟩ : FocusMark α)).toList

end FocusMark

/-- The **activations so far**: for each participant the tops of its open boxes, the innermost first,
and the boxes that are closed, in the order in which they were closed. -/
structure FocusState (α : Type) where
  /-- The tops of the open boxes. -/
  openTops : List (List α)
  /-- The closed boxes. -/
  closed : List (ActivationBox α) := []
  deriving DecidableEq, Repr

namespace FocusState

/-- Applies a mark. One that closes a box where none is open does nothing. -/
def apply (state : FocusState α) (mark : FocusMark α) : FocusState α :=
  let stack := state.openTops.getD mark.participant []
  match mark.activation, stack with
  | .opens, _ =>
    { state with openTops := state.openTops.set mark.participant (mark.y :: stack) }
  | .closes, top :: outer =>
    { openTops := state.openTops.set mark.participant outer
      closed := state.closed ++ [⟨mark.participant, outer.length, top, mark.y⟩] }
  | .closes, [] => state

/-- The boxes of the tops that are still open, each running down to `bottom`; the outer ones
first. -/
def openBoxes (participant : Nat) (tops : List α) (bottom : α) : List (ActivationBox α) :=
  tops.reverse.mapIdx fun level top => ⟨participant, level, top, bottom⟩

/-- All boxes, those of lower level first. -/
def boxes (state : FocusState α) (bottom : α) : List (ActivationBox α) :=
  let remaining :=
    (state.openTops.mapIdx fun participant tops => openBoxes participant tops bottom).flatten
  (state.closed ++ remaining).mergeSort fun first second => first.level ≤ second.level

end FocusState

/-! ## The layout -/

namespace Layout

/-- The **marks** of the messages of a diagram whose rows are laid out, from top to bottom. -/
def marks (model : SequenceModel) (layout : Layout α) : List (FocusMark α) :=
  (model.events.zip layout.rows).flatMap fun (event, row) => FocusMark.ofEvent event row

/-- The activation boxes of a diagram whose rows are laid out. -/
def activationBoxes (model : SequenceModel) (layout : Layout α) : List (ActivationBox α) :=
  let start : FocusState α := { openTops := model.participants.map fun _ => [] }
  ((layout.marks model).foldl FocusState.apply start).boxes layout.bottomActorsY

/-- Lays out a sequence diagram. -/
def compute (model : SequenceModel) : Layout α :=
  let measured : List (MeasuredEvent α) := model.events.map Event.measure
  let actorsHeight : α := UmlSketch.actorsHeight model.participants
  let (rows, signalsHeight) := Row.stack (diagramMargin + actorsHeight) (0 : Nat) measured
  let (columns, rightEdge) :=
    Column.placeAll (measured.map MeasuredEvent.gap)
      (model.participants.map Column.ofParticipant)
  let layout : Layout α :=
    { columns, rows, actorsHeight, signalsHeight
      width := twice diagramMargin + rightEdge
      height := twice diagramMargin + twice actorsHeight + signalsHeight }
  { layout with activations := layout.activationBoxes model }

end Layout

end UmlSketch
