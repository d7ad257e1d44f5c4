import UmlSketch.Decimal.Shortest
import UmlSketch.Sequence.Layout
import UmlSketch.Svg.Element

/-! # Drawings of sequence diagrams
A sequence diagram is drawn by its layout in single precision: the participants twice, above and below
their lifelines, then the activation boxes, then the events. Lines and texts have one ink color;
activation boxes are filled with the color of the paper. -/

namespace UmlSketch

/-- Natural numbers in single precision. -/
instance instNatCastFloat32 : NatCast Float32 := ⟨Float32.ofNat⟩

namespace Drawing

open UmlSketch.Measure

/-- The two **colors** of a drawing. -/
structure Palette where
  /-- The color of lines and texts. -/
  ink : String
  /-- The color behind them. -/
  paper : String
  deriving DecidableEq, Repr

/-- The colors on a light or a dark background. -/
def Palette.of (dark : Bool) : Palette := if dark then ⟨"white", "black"⟩ else ⟨"black", "white"⟩

/-- A number as it is written. -/
def number (x : Float32) : Text := renderFloat32 x

/-- A point as it is written. -/
def point (x y : Float32) : Text := number x ++ ',' :: number y

/-- The size of the folded corner of a note. -/
def noteFold : Float32 := 7

/-! ## Shapes -/

/-- The style of an outline. -/
def style (palette : Palette) (fill : Option Text) : Text :=
  "stroke-width: 1; fill: ".toList ++ fill.getD "none".toList ++ "; stroke: ".toList ++
    palette.ink.toList ++ [';']

/-- A line along a path. -/
def path (palette : Palette) (d : Text) (line : LineStyle) (fill : Option Text)
    (extra : List (String × Text)) : Svg.Node :=
  let dashes : List (String × Text) :=
    match line with
    | .dashed => [("stroke-dasharray", "7,4".toList)]
    | .solid => []
  .element "path" ([("d", d), ("style", style palette fill)] ++ dashes ++ extra) []

/-- A rectangle. -/
def rect (palette : Palette) (x y width height : Float32) (fill : Option Text) : Svg.Node :=
  .element "rect"
    [("x", number x), ("y", number y), ("width", number width), ("height", number height),
      ("style", style palette fill)] []

/-- A text whose lines are stacked and centered around a point. -/
def text (palette : Palette) (x y : Float32) (content : Text) (color : Option TextColor) :
    Svg.Node :=
  let lines := Text.fields '\n' content
  let first := y - (((lines.length - 1 : Nat) : Float32) / 2) * lineHeight
  let ink := ((color.map TextColor.name).getD palette.ink).toList
  .element "g" []
    (lines.mapIdx fun index line =>
      .element "text"
        [("x", number x), ("y", number (first + (index : Float32) * lineHeight)), ("fill", ink),
          ("font-family", "Helvetica".toList), ("text-anchor", "middle".toList),
          ("dominant-baseline", "central".toList)]
        [.text line])

/-- The head of an arrow, to be referred to by its name. -/
def arrowHead (arrow : ArrowHead) (shape : List (String × Text)) : Svg.Node :=
  .element "marker"
    [("id", arrow.name.toList), ("viewBox", "0 0 10 10".toList), ("refX", "10".toList),
      ("refY", "5".toList), ("markerWidth", "6".toList), ("markerHeight", "6".toList),
      ("orient", "auto".toList)]
    [.element "path" shape []]

/-- The heads of all arrows. -/
def definitions (palette : Palette) : Svg.Node :=
  .element "defs" []
    [arrowHead .filled
      [("d", "M 0 0 L 10 5 L 0 10 z".toList), ("fill", palette.ink.toList)],
      arrowHead .open
        [("d", "M 0 0 L 10 5 L 0 10".toList), ("fill", "none".toList),
          ("stroke", palette.ink.toList)]]

/-! ## Participants -/

/-- The box of a participant, its margins included in the height. -/
def actor (palette : Palette) (column : Column Float32) (y height : Float32)
    (participant : Participant) : List Svg.Node :=
  let fill := participant.fill
  [rect palette (column.x + actorMargin) (y + actorMargin) (column.width - twice actorMargin)
      (height - twice actorMargin) (fill.map Fill.color),
    text palette column.center (y + half height) participant.label (fill.bind Fill.textColor)]

/-- The two boxes of a participant and the lifeline between them. -/
def lifeline (palette : Palette) (layout : Layout Float32) (participant : Participant)
    (column : Column Float32) : List Svg.Node :=
  let line :=
    'M' :: point column.center layout.lifelineStart ++ " v".toList ++
      number (layout.lifelineEnd - layout.lifelineStart)
  actor palette column layout.topActorsY layout.actorsHeight participant ++
    actor palette column layout.bottomActorsY layout.actorsHeight participant ++
    [path palette line .solid none []]

/-- An activation box on the lifeline of its participant. -/
def activation (palette : Palette) (column : Column Float32) (box : ActivationBox Float32) :
    Svg.Node :=
  rect palette (box.x column.center) box.top activationWidth (box.bottom - box.top)
    (some palette.paper.toList)

/-! ## Events -/

/-- The text of a message, if there is any. -/
def messageText (palette : Palette) (x y : Float32) (message : Message) : List Svg.Node :=
  if message.text = [] then [] else [text palette x y message.text none]

/-- A line that ends with the arrow of a message. -/
def arrow (palette : Palette) (d : Text) (message : Message) : Svg.Node :=
  path palette d message.line none
    [("marker-end", "url(#".toList ++ message.arrow.name.toList ++ [')'])]

/-- A message from one lifeline to another. -/
def message (palette : Palette) (message : Message) (source target : Column Float32)
    (row : Row Float32) : List Svg.Node :=
  let (a, b) := (source.center, target.center)
  messageText palette (half (a + b)) (row.y + signalMargin + twice signalPadding) message ++
    [arrow palette ('M' :: point a row.signalY ++ " h".toList ++ number (b - a)) message]

/-- A message that loops back to its lifeline. -/
def selfMessage (palette : Palette) (message : Message) (column : Column Float32)
    (row : Row Float32) : List Svg.Node :=
  let a := column.center
  let top := row.y + signalMargin
  let bottom := row.y + row.height
  let loopX := a + selfSignalWidth * 2
  let curve :=
    'M' :: point a top ++ " C".toList ++ point loopX top ++ ' ' :: point loopX bottom ++
      ' ' :: point a bottom
  messageText palette (a + selfSignalWidth + signalPadding + half row.text.width)
      (row.y + half row.height) message ++
    [arrow palette curve message]

/-- A note on the right of a lifeline, its upper right corner folded. -/
def note (palette : Palette) (note : SideNote) (column : Column Float32) (row : Row Float32) :
    List Svg.Node :=
  let x := column.center + actorMargin
  let y := row.y
  let m : Float32 := noteMargin
  let foldX := x - m + row.width - noteFold
  let right := x - m + row.width
  let top := y + m
  let foldY := y + m + noteFold
  let left := x + m
  let bottom := y - m + row.height
  let corner (x y : Float32) : Text := " L".toList ++ point x y
  let outline :=
    'M' :: point foldX top ++ corner foldX foldY ++ corner right foldY ++ corner foldX top ++
      corner left top ++ corner left bottom ++ corner right bottom ++ corner right foldY ++
      [' ', 'Z']
  [path palette outline .solid (note.fill.map Fill.color) [],
    text palette (x + half row.width) (y + half row.height) note.text
      (note.fill.bind Fill.textColor)]

/-- An event in its row. One that refers to a column that does not exist is not drawn. -/
def event (palette : Palette) (columns : List (Column Float32)) (event : Event)
    (row : Row Float32) : List Svg.Node :=
  match event with
  | .message sent =>
    match columns[sent.source]?, columns[sent.target]? with
    | some source, some target =>
      if sent.isSelf then selfMessage palette sent source row
      else message palette sent source target row
    | _, _ => []
  | .note shown =>
    match columns[shown.participant]? with
    | some column => note palette shown column row
    | none => []

/-! ## The drawing -/

/-- All shapes of a diagram that is laid out, from back to front. -/
def shapes (palette : Palette) (model : SequenceModel) (layout : Layout Float32) :
    List Svg.Node :=
  (model.participants.zip layout.columns).flatMap
      (fun (participant, column) => lifeline palette layout participant column) ++
    layout.activations.filterMap
      (fun box => layout.columns[box.participant]?.map fun column => activation palette column box) ++
    (model.events.zip layout.rows).flatMap
      fun (happening, row) => event palette layout.columns happening row

/-- The drawing of a sequence diagram. -/
def ofModel (model : SequenceModel) (dark : Bool) : Text :=
  let palette := Palette.of dark
  let layout : Layout Float32 := .compute model
  let viewBox := "0 0 ".toList ++ number layout.width ++ ' ' :: number layout.height
  Svg.Node.render
    (.element "svg"
      [("xmlns", "http://www.w3.org/2000/svg".toList), ("viewBox", viewBox),
        ("width", number layout.width), ("height", number layout.height)]
      (definitions palette :: shapes palette model layout))

end Drawing

end UmlSketch
