import UmlSketch.Decimal.Shortest
import UmlSketch.Text.CharClass

/-! # Pictures in rendered drawings
A label may start with a mark such as `{img:actor}`. After a drawing is rendered, each text element
whose content starts with such a mark is replaced by the picture at the element's anchor, followed by
the rest of the text below it. Everything else in the drawing stays as it is. -/

namespace UmlSketch.Svg

/-- A **picture** and how far the text after it is moved. -/
structure Picture where
  /-- The shapes of the picture, around the anchor. -/
  shapes : Text
  /-- How far the text is moved to the right. -/
  dx : Float
  /-- How far the text is moved down. -/
  dy : Float

/-- The figure of a person. -/
def actorShapes : Text :=
  ("<circle cx=\"0\" cy=\"-20\" r=\"7.5\" />\n" ++
    "<line x1=\"0\" y1=\"-12.5\" x2=\"0\" y2=\"5\" />\n" ++
    "<line x1=\"-15\" y1=\"-5\" x2=\"15\" y2=\"-5\" />\n" ++
    "<line x1=\"0\" y1=\"5\" x2=\"-15\" y2=\"17\" />\n" ++
    "<line x1=\"0\" y1=\"5\" x2=\"15\" y2=\"17\" />").toList

/-- The picture with the given name. -/
def Picture.named? (name : Text) : Option Picture :=
  if name = "actor".toList then some ⟨actorShapes, 0, 25⟩ else none

/-! ## Marked text elements -/

/-- A **text element whose content starts with a mark**. -/
structure MarkedText where
  /-- The attributes as they are written, without the blank before them. -/
  attributes : Text
  /-- The name in the mark. -/
  name : Text
  /-- The content after the mark. -/
  label : Text
  deriving DecidableEq, Repr

/-- Reads a marked text element off the start of a text; the second part is what follows it. -/
def MarkedText.ofStart? (text : Text) : Option (MarkedText × Text) :=
  match Text.dropStart? "<text".toList text with
  | none | some [] => none
  | some (blank :: inTag) =>
    if !Text.isBlank blank then none
    else
      (Text.dropStart? ">\x7bimg:".toList (inTag.dropWhile (· ≠ '>'))).bind fun inMark =>
        (Text.dropStart? ['\x7d'] (inMark.dropWhile (· ≠ '\x7d'))).bind fun inText =>
          (Text.dropStart? "</text>".toList (inText.dropWhile (· ≠ '<'))).map fun after =>
            (⟨inTag.takeWhile (· ≠ '>'), inMark.takeWhile (· ≠ '\x7d'),
              inText.takeWhile (· ≠ '<')⟩, after)

/-! ## Anchors -/

/-- Reads an attribute that gives a number, such as ` x="1.5"`, off the start of a text. The parts are
the number as it is written and what follows the attribute. -/
def numberAttribute? (name : Char) (text : Text) : Option (Text × Text) :=
  match text with
  | blank :: rest =>
    if !Text.isBlank blank then none
    else
      (Text.dropStart? [name, '=', '"'] rest).bind fun value =>
        let sign : Text := if value.head? = some '-' then ['-'] else []
        let unsigned := if value.head? = some '-' then value.tail else value
        let isNumberChar (c : Char) : Bool := c.isDigit || c = '.'
        let digits := unsigned.takeWhile isNumberChar
        if digits = [] then none
        else
          (Text.dropStart? ['"'] (unsigned.dropWhile isNumberChar)).map fun after =>
            (sign ++ digits, after)
  | [] => none

/-- An attribute found among others. -/
structure FoundAttribute where
  /-- The attributes before it. -/
  before : Text
  /-- The number as it is written. -/
  number : Text
  /-- The attributes after it. -/
  after : Text
  deriving DecidableEq, Repr

/-- Finds the first attribute that gives a number under a name. -/
def findNumber? (name : Char) : Text → Option FoundAttribute
  | [] => none
  | c :: rest =>
    match numberAttribute? name (c :: rest) with
    | some (number, after) => some ⟨[], number, after⟩
    | none => (findNumber? name rest).map fun found => { found with before := c :: found.before }

/-- A coordinate of an anchor: as it is written and as a number. -/
def anchor? (name : Char) (attributes : Text) : Option (Text × Float) :=
  (findNumber? name attributes).bind fun found =>
    (Decimal.ofText? found.number).map fun value => (found.number, value.toFloat)

/-- Gives the first attribute with a number under a name another number. -/
def setNumber (name : Char) (value : Float) (attributes : Text) : Text :=
  match findNumber? name attributes with
  | none => attributes
  | some found =>
    found.before ++ [' ', name, '=', '"'] ++ renderFloat value ++ '"' :: found.after

/-! ## Replacing -/

/-- What a marked text element is replaced by: the picture and the moved text, or, if no picture has the
name, the text without the mark. An element without an anchor is not replaced. -/
def MarkedText.replacement? (marked : MarkedText) (dark : Bool) : Option Text :=
  let attributes := ' ' :: marked.attributes
  let textElement (attributes : Text) : Text :=
    "<text".toList ++ attributes ++ '>' :: Text.trim marked.label ++ "</text>".toList
  match Picture.named? marked.name with
  | none => some (textElement attributes)
  | some picture =>
    (anchor? 'x' attributes).bind fun (writtenX, x) =>
      (anchor? 'y' attributes).map fun (writtenY, y) =>
        let ink := if dark then "white" else "black"
        let moved := setNumber 'y' (y + picture.dy) (setNumber 'x' (x + picture.dx) attributes)
        "<g transform=\"translate(".toList ++ writtenX ++ ", ".toList ++ writtenY ++
          (")\" style=\"fill:none;stroke:" ++ ink ++ ";stroke-width:1px\">").toList ++
          picture.shapes ++ "</g>\n".toList ++ textElement moved

/-- Replaces the marked text elements of a drawing; `skip` characters belong to an element that is
replaced already. -/
def embedFrom (dark : Bool) (skip : Nat) : Text → Text
  | [] => []
  | c :: rest =>
    match skip with
    | skip + 1 => embedFrom dark skip rest
    | 0 =>
      match MarkedText.ofStart? (c :: rest) with
      | none => c :: embedFrom dark 0 rest
      | some (marked, after) =>
        let length := (c :: rest).length - after.length
        (marked.replacement? dark).getD ((c :: rest).take length) ++
          embedFrom dark (length - 1) rest

/-- **Embeds the pictures** that the texts of a rendered drawing ask for. -/
def embedPictures (drawing : Text) (dark : Bool) : Text := embedFrom dark 0 drawing

end UmlSketch.Svg
