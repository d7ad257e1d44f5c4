import UmlSketch.Toml.Number

/-! # Dates and times in TOML
A moment is a date, a time, or both, and then perhaps with an offset from universal time. The seconds of
a time may be left out; of a fraction of a second, nine digits count. `Moment.render` writes a moment in
one form, however it is written in a document. -/

namespace UmlSketch.Toml

/-- A **day** of the calendar. -/
structure Date where
  /-- The year. -/
  year : Nat
  /-- The month, counted from one. -/
  month : Nat
  /-- The day of the month, counted from one. -/
  day : Nat
  deriving DecidableEq, Repr

/-- A **time of day**. -/
structure Time where
  /-- The hour. -/
  hour : Nat
  /-- The minute of the hour. -/
  minute : Nat
  /-- The second of the minute. -/
  second : Option Nat := none
  /-- The nanosecond of the second. -/
  nanosecond : Option Nat := none
  deriving DecidableEq, Repr

/-- An **offset** from universal time. -/
inductive Offset
  /-- Universal time itself. -/
  | universal
  /-- So many minutes ahead of it. -/
  | minutes (ahead : Int)
  deriving DecidableEq, Repr

/-- A **moment**. -/
inductive Moment
  /-- A date alone. -/
  | dateOnly (date : Date)
  /-- A time alone. -/
  | timeOnly (time : Time)
  /-- A date and a time. -/
  | dateTime (date : Date) (time : Time) (offset : Option Offset)
  deriving DecidableEq, Repr

/-! ## Reading -/

/-- Reads a number of exactly so many digits. -/
def fixedDigits? (length : Nat) (text : Text) : Option (Nat × Text) :=
  let digits := text.take length
  if digits.length = length && digits.all Char.isDigit then
    some (natOfDigits 10 digits, text.drop length)
  else none

/-- The number of days of a month. -/
def daysInMonth (year month : Nat) : Nat :=
  if month = 2 then
    if year % 4 = 0 && (year % 100 ≠ 0 || year % 400 = 0) then 29 else 28
  else if month = 4 || month = 6 || month = 9 || month = 11 then 30
  else 31

/-- Reads a date. -/
def date? (text : Text) : Option (Date × Text) := do
  let (year, rest) ← fixedDigits? 4 text
  let (month, rest) ← fixedDigits? 2 (← Text.dropStart? ['-'] rest)
  let (day, rest) ← fixedDigits? 2 (← Text.dropStart? ['-'] rest)
  if 1 ≤ month && month ≤ 12 && 1 ≤ day && day ≤ daysInMonth year month then
    some (⟨year, month, day⟩, rest)
  else none

/-- Reads hours and minutes. -/
def hoursAndMinutes? (text : Text) : Option ((Nat × Nat) × Text) := do
  let (hours, rest) ← fixedDigits? 2 text
  let (minutes, rest) ← fixedDigits? 2 (← Text.dropStart? [':'] rest)
  if hours < 24 && minutes < 60 then some ((hours, minutes), rest) else none

/-- The nanoseconds that the digits of a fraction of a second write. -/
def nanosecondsOf (digits : Text) : Nat :=
  natOfDigits 10 ((digits ++ List.replicate 9 '0').take 9)

/-- Reads seconds after their colon, with a fraction or without one. A minute may have a leap second. -/
def seconds? (text : Text) : Option ((Nat × Option Nat) × Text) := do
  let (seconds, rest) ← fixedDigits? 2 text
  if 60 < seconds then none
  match rest with
  | '.' :: fraction =>
    let digits := fraction.takeWhile Char.isDigit
    if digits = [] then none
    else some ((seconds, some (nanosecondsOf digits)), fraction.dropWhile Char.isDigit)
  | _ => some ((seconds, none), rest)

/-- Reads a time. -/
def time? (text : Text) : Option (Time × Text) := do
  let ((hour, minute), rest) ← hoursAndMinutes? text
  match rest with
  | ':' :: rest =>
    let ((second, nanosecond), rest) ← seconds? rest
    some (⟨hour, minute, some second, nanosecond⟩, rest)
  | _ => some (⟨hour, minute, none, none⟩, rest)

/-- Reads all of a text as an offset; an empty text has none. -/
def offset? (text : Text) : Option (Option Offset) :=
  match text with
  | [] => some none
  | ['Z'] | ['z'] => some (some .universal)
  | c :: rest =>
    match hoursAndMinutes? rest with
    | some ((hours, minutes), []) =>
      if c = '+' || c = '-' then some (some (.minutes (signed (c = '-') (60 * hours + minutes))))
      else none
    | _ => none

/-- Whether a word is a date alone. -/
def isDate (text : Text) : Bool := (date? text).any fun (_, rest) => rest = []

/-- Reads all of a text as a moment. -/
def Moment.ofText? (text : Text) : Option Moment :=
  match date? text with
  | some (day, []) => some (.dateOnly day)
  | some (day, separator :: rest) =>
    if separator = 'T' || separator = 't' || separator = ' ' then
      (time? rest).bind fun (time, rest) => (offset? rest).map (.dateTime day time)
    else none
  | none =>
    match time? text with
    | some (time, []) => some (.timeOnly time)
    | _ => none

/-! ## Writing -/

/-- A number with zeros in front of it. -/
def padded (length value : Nat) : Text := Decimal.padZeros length (Decimal.digitsOf value)

/-- A date as it is written. -/
def Date.render (date : Date) : Text :=
  padded 4 date.year ++ '-' :: padded 2 date.month ++ '-' :: padded 2 date.day

/-- Nanoseconds as a fraction of a second: without the zeros at its end, but with one digit at least. -/
def renderNanoseconds (nanosecond : Nat) : Text :=
  let digits := ((padded 9 nanosecond).reverse.dropWhile (· = '0')).reverse
  if digits = [] then ['0'] else digits

/-- A time as it is written. -/
def Time.render (time : Time) : Text :=
  let seconds := (time.second.map fun second => ':' :: padded 2 second).getD []
  let fraction := (time.nanosecond.map fun nanosecond => '.' :: renderNanoseconds nanosecond).getD []
  padded 2 time.hour ++ ':' :: padded 2 time.minute ++ seconds ++ fraction

/-- An offset as it is written. -/
def Offset.render : Offset → Text
  | .universal => ['Z']
  | .minutes ahead =>
    (if ahead < 0 then '-' else '+') :: padded 2 (ahead.natAbs / 60) ++
      ':' :: padded 2 (ahead.natAbs % 60)

/-- **A moment as it is written**. -/
def Moment.render : Moment → Text
  | .dateOnly date => date.render
  | .timeOnly time => time.render
  | .dateTime date time offset =>
    date.render ++ 'T' :: time.render ++ (offset.map Offset.render).getD []

end UmlSketch.Toml
