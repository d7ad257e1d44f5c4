import UmlSketch.Text.Basic

/-! # UTF-8
Bytes are decoded as UTF-8. A sequence of bytes that is no UTF-8 is refused at the first character that
cannot be completed: either a byte rules it out, or the bytes end within it. -/

namespace UmlSketch

/-- Where and how bytes fail to be UTF-8. -/
structure Utf8Error where
  /-- The number of bytes before that are well formed. -/
  validBytes : Nat
  /-- The number of bytes that belong to no character; none if the bytes end within a character. -/
  invalidBytes : Option Nat
  deriving DecidableEq, Repr

/-- What is wrong with bytes that are no UTF-8. -/
def Utf8Error.message (error : Utf8Error) : String :=
  match error.invalidBytes with
  | some count =>
    "invalid utf-8 sequence of " ++ toString count ++ " bytes from index " ++
      toString error.validBytes
  | none => "incomplete utf-8 byte sequence from index " ++ toString error.validBytes

namespace Utf8

/-- The number of bytes of a character that starts with the given byte. -/
def lengthOf? (first : UInt8) : Option Nat :=
  if first < 0x80 then some 1
  else if 0xC2 ≤ first ∧ first ≤ 0xDF then some 2
  else if 0xE0 ≤ first ∧ first ≤ 0xEF then some 3
  else if 0xF0 ≤ first ∧ first ≤ 0xF4 then some 4
  else none

/-- Whether a byte may stand second, after the given first byte. The narrower ranges keep out overlong
forms, surrogates and code points that are too large. -/
def maySecond (first second : UInt8) : Bool :=
  let low : UInt8 := if first = 0xE0 then 0xA0 else if first = 0xF0 then 0x90 else 0x80
  let high : UInt8 := if first = 0xED then 0x9F else if first = 0xF4 then 0x8F else 0xBF
  low ≤ second && second ≤ high

/-- Whether a byte continues a character. -/
def continues (byte : UInt8) : Bool := 0x80 ≤ byte && byte ≤ 0xBF

/-- The six bits that a continuing byte holds. -/
def payload (byte : UInt8) : Nat := byte.toNat % 0x40

/-- The bytes of the first character: their number and the character, or how they fail. -/
def first? (bytes : List UInt8) : Except (Option Nat) (Nat × Char) :=
  match bytes with
  | [] => .error none
  | a :: rest =>
    match lengthOf? a with
    | none => .error (some 1)
    | some 1 => .ok (1, Char.ofNat a.toNat)
    | some length =>
      match rest with
      | [] => .error none
      | b :: rest =>
        if !maySecond a b then .error (some 1)
        else if length = 2 then .ok (2, Char.ofNat (a.toNat % 0x20 * 0x40 + payload b))
        else
          match rest with
          | [] => .error none
          | c :: rest =>
            if !continues c then .error (some 2)
            else if length = 3 then
              .ok (3, Char.ofNat ((a.toNat % 0x10 * 0x40 + payload b) * 0x40 + payload c))
            else
              match rest with
              | [] => .error none
              | d :: _ =>
                if !continues d then .error (some 3)
                else
                  .ok (4, Char.ofNat
                    (((a.toNat % 0x08 * 0x40 + payload b) * 0x40 + payload c) * 0x40 + payload d))

/-- Decodes the bytes that follow `position` others; `skip` of them belong to a character that is read
already. -/
def decodeFrom (position skip : Nat) : List UInt8 → Except Utf8Error Text
  | [] => .ok []
  | byte :: rest =>
    match skip with
    | skip + 1 => decodeFrom (position + 1) skip rest
    | 0 =>
      match first? (byte :: rest) with
      | .error invalidBytes => .error ⟨position, invalidBytes⟩
      | .ok (length, c) => (decodeFrom (position + 1) (length - 1) rest).map (c :: ·)

/-- Decodes bytes as UTF-8. -/
def decode (bytes : List UInt8) : Except Utf8Error Text := decodeFrom 0 0 bytes

/-- The bytes of a text in UTF-8. -/
def encode (text : Text) : List UInt8 := text.flatMap String.utf8EncodeChar

end Utf8

end UmlSketch
