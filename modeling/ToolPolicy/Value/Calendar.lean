import ToolPolicy.Fault

/-!
# Dates and times

Points in time as documents write them. A date that the calendar does not have is a fault, named
by its first wrong part.
-/

namespace ToolPolicy

/-- A day of the calendar. -/
structure Date where
  year : Nat
  month : Nat
  day : Nat
  deriving DecidableEq, Repr

/-- A time of day on a date, and how many seconds it is ahead of universal
time, if that is known. -/
structure Timestamp where
  date : Date
  hour : Nat
  minute : Nat
  second : Nat
  microsecond : Nat
  offset : Option Int
  deriving DecidableEq, Repr

/-- Digits with zeros in front up to a width. -/
def Text.padded (width n : Nat) : Text :=
  let digits := Text.ofNat n
  List.replicate (width - digits.length) '0'.toNat ++ digits

namespace Date

/-- Whether a year has a leap day. -/
def isLeap (year : Nat) : Bool := year % 4 == 0 && (year % 100 != 0 || year % 400 == 0)

/-- The number of days of a month. -/
def daysIn (year month : Nat) : Nat :=
  if month = 2 then (if isLeap year then 29 else 28)
  else if month = 4 || month = 6 || month = 9 || month = 11 then 30
  else 31

/-- The date itself, or the first part of it that the calendar does not have. -/
def validate (d : Date) : Except Fault Date :=
  if d.year = 0 || 9999 < d.year then .error (.calendar (.year d.year))
  else if d.month = 0 || 12 < d.month then .error (.calendar .month)
  else if d.day = 0 || daysIn d.year d.month < d.day then .error (.calendar .day)
  else .ok d

/-- Year, month and day with hyphens between them. -/
def text (d : Date) : Text :=
  Text.padded 4 d.year ++ "-" ++ Text.padded 2 d.month ++ "-" ++ Text.padded 2 d.day

/-- How many days of the calendar there are up to a date, the date included. -/
def ordinal (d : Date) : Nat :=
  let years := d.year - 1
  years * 365 + years / 4 - years / 100 + years / 400
    + (List.range (d.month - 1)).foldl (fun n m => n + daysIn d.year (m + 1)) 0 + d.day

end Date

namespace Timestamp

/-- The time itself, or the first part of it that does not exist. -/
def validate (t : Timestamp) : Except Fault Timestamp :=
  match t.offset with
  | some seconds =>
    if seconds ≤ -86400 || 86400 ≤ seconds then .error (.calendar (.offset seconds)) else parts
  | none => parts
where
  /-- The checks of the parts, from the year on. -/
  parts : Except Fault Timestamp :=
    match t.date.validate with
    | .error f => .error f
    | .ok _ =>
      if 23 < t.hour then .error (.calendar .hour)
      else if 59 < t.minute then .error (.calendar .minute)
      else if 59 < t.second then .error (.calendar .second)
      else .ok t

/-- The microseconds of universal time up to a time that is so many seconds ahead of it. -/
def instant (t : Timestamp) (ahead : Int) : Int :=
  let seconds : Int := ((t.date.ordinal * 24 + t.hour) * 60 + t.minute) * 60 + t.second
  (seconds - ahead) * 1000000 + t.microsecond

/-- Whether two times are the same point in time. A time whose distance from universal time is not
known is the same only as one that is written alike. -/
def same (a b : Timestamp) : Bool :=
  match a.offset, b.offset with
  | some m, some n => a.instant m == b.instant n
  | none, none => a == b
  | _, _ => false

/-- The distance from universal time, as a sign, hours and minutes. -/
def offsetText (seconds : Int) : Text :=
  let n := seconds.natAbs
  let rest := n % 60
  (if seconds < 0 then "-" else "+") ++ Text.padded 2 (n / 3600) ++ ":"
    ++ Text.padded 2 (n / 60 % 60) ++ (if rest = 0 then [] else 58 :: Text.padded 2 rest)

/-- Date and time with a `T` between them. -/
def text (t : Timestamp) : Text :=
  t.date.text ++ "T" ++ Text.padded 2 t.hour ++ ":" ++ Text.padded 2 t.minute ++ ":"
    ++ Text.padded 2 t.second
    ++ (if t.microsecond = 0 then [] else 46 :: Text.padded 6 t.microsecond)
    ++ (match t.offset with
      | some seconds => offsetText seconds
      | none => [])

end Timestamp

end ToolPolicy
