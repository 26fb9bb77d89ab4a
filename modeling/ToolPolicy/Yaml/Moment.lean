import ToolPolicy.Value.Calendar

/-!
# Dates and times as documents write them

A date has four digits for the year and one or two for month and day. A time follows after a `T` or
white space, and after it perhaps a distance from universal time. The parts are found here; whether
the calendar has them is checked when the value is made.
-/

namespace ToolPolicy.Yaml

/-- A time of day as it is written. -/
structure Clock where
  hour : Text
  minute : Text
  second : Text
  /-- The digits after the point. -/
  fraction : Text
  /-- How far ahead of universal time this is, in seconds, if that is said. -/
  offset : Option Int
  deriving DecidableEq, Repr

/-- A date as it is written, and perhaps a time. -/
structure Moment where
  year : Text
  month : Text
  day : Text
  clock : Option Clock
  deriving DecidableEq, Repr

namespace Moment

/-- The digits at the beginning of a text, at most some, and what follows. -/
def takeDigits : Nat → Text → Text × Text
  | 0, t => ([], t)
  | _ + 1, [] => ([], [])
  | most + 1, c :: rest =>
    if CodePoint.isAsciiDigit c then
      let (digits, more) := takeDigits most rest
      (c :: digits, more)
    else ([], c :: rest)

/-- Digits whose number lies between two bounds, and what follows. -/
def digits? (least most : Nat) (t : Text) : Option (Text × Text) :=
  let (digits, rest) := takeDigits most t
  if least ≤ digits.length then some (digits, rest) else none

/-- What follows a code point. -/
def after? (c : CodePoint) : Text → Option Text
  | d :: rest => if d = c then some rest else none
  | [] => none

/-- The number that digits write. -/
def number (digits : Text) : Nat := Text.toNatBase 10 digits

/-- What follows the white space or the letter between a date and a time. -/
def afterGap? : Text → Option Text
  | c :: rest =>
    if c = 84 || c = 116 then some rest
    else if c = 32 || c = 9 then some (rest.dropWhile fun d => d == 32 || d == 9)
    else none
  | [] => none

/-- The distance from universal time that makes up the rest of a text;
`some none` if there is no text. -/
def zone? : Text → Option (Option Int)
  | [] => some none
  | t =>
    match t.dropWhile fun c => c == 32 || c == 9 with
    | [90] => some (some 0)
    | sign :: rest =>
      if sign = 43 || sign = 45 then do
        let (hours, rest) ← digits? 1 2 rest
        let minutes ← match rest with
          | [] => some 0
          | _ => do
            let (minutes, rest) ← digits? 2 2 (← after? 58 rest)
            if rest.isEmpty then some (number minutes) else none
        let seconds : Int := (number hours * 60 + minutes) * 60
        return some (if sign = 45 then -seconds else seconds)
      else none
    | [] => none

/-- The time that makes up a text. -/
def clock? (t : Text) : Option Clock := do
  let (hour, t) ← digits? 1 2 t
  let (minute, t) ← digits? 2 2 (← after? 58 t)
  let (second, t) ← digits? 2 2 (← after? 58 t)
  let (fraction, t) := match after? 46 t with
    | some rest => takeDigits rest.length rest
    | none => ([], t)
  return { hour, minute, second, fraction, offset := ← zone? t }

/-- The date and time that make up a text. -/
def read? (t : Text) : Option Moment := do
  let (year, t) ← digits? 4 4 t
  let (month, t) ← digits? 1 2 (← after? 45 t)
  let (day, t) ← digits? 1 2 (← after? 45 t)
  match t with
  | [] => return { year, month, day, clock := none }
  | _ => return { year, month, day, clock := some (← clock? (← afterGap? t)) }

/-- The date of a moment, if the calendar has it. -/
def date (m : Moment) : Date := ⟨number m.year, number m.month, number m.day⟩

/-- The digits of a fraction of a second, as millionths. -/
def millionths (fraction : Text) : Nat :=
  let digits := fraction.take 6
  number (digits ++ List.replicate (6 - digits.length) 48)

/-- The time of a moment. -/
def timestamp (m : Moment) (c : Clock) : Timestamp where
  date := m.date
  hour := number c.hour
  minute := number c.minute
  second := number c.second
  microsecond := millionths c.fraction
  offset := c.offset

end Moment

end ToolPolicy.Yaml
