import ToolPolicy.Fault
import ToolPolicy.Value.Basic

/-!
# Values in messages

How a value is shown where a message or a listing has no better text for it. A reference to an
enclosing container is shown by the brackets of that container around three dots. An integer with
too many digits has no text, and nothing that holds one.
-/

namespace ToolPolicy

namespace Value

/-- The kinds of containers, by their brackets. -/
inductive Bracket where
  | square | curly | round | setOf
  deriving DecidableEq, Repr

/-- A container within itself. -/
def Bracket.dots : Bracket → Text
  | square => "[...]"
  | curly => "\x7b...\x7d"
  | round => "(...)"
  | setOf => "set(...)"

/-- A date as a value. -/
def shownDate (d : Date) : Text :=
  "datetime.date(" ++
    Text.join ", " [Text.ofNat d.year, Text.ofNat d.month, Text.ofNat d.day] ++ ")"

/-- A time as a value; zero seconds and parts of seconds are left out. -/
def shownTimestamp (t : Timestamp) : Text :=
  let clock : List Text :=
    [t.date.year, t.date.month, t.date.day, t.hour, t.minute].map Text.ofNat
      ++ (if t.second = 0 && t.microsecond = 0 then [] else [Text.ofNat t.second])
      ++ (if t.microsecond = 0 then [] else [Text.ofNat t.microsecond])
  let zone : List Text := match t.offset with
    | none => []
    | some 0 => ["tzinfo=datetime.timezone.utc"]
    | some seconds => ["tzinfo=datetime.timezone(" ++ Text.shownDuration seconds ++ ")"]
  "datetime.datetime(" ++ Text.join ", " (clock ++ zone) ++ ")"

mutual

/-- The text for a value, within the given containers, the nearest first. -/
def shownWithin (around : List Bracket) : Value → Text
  | null => "None"
  | bool b => if b then "True" else "False"
  | int n => Text.ofInt n
  | float x => x.text
  | str t => Text.quote t
  | bytes b => Text.quoteBytes b
  | date d => shownDate d
  | timestamp t => shownTimestamp t
  | list items => "[" ++ Text.join ", " (shownItems (.square :: around) items) ++ "]"
  | mapping entries =>
    "\x7b" ++ Text.join ", " (shownEntries (.curly :: around) entries) ++ "\x7d"
  | tuple items =>
    match shownItems (.round :: around) items with
    | [one] => "(" ++ one ++ ",)"
    | texts => "(" ++ Text.join ", " texts ++ ")"
  | set items =>
    match shownItems (.setOf :: around) items with
    | [] => "set()"
    | texts => "\x7b" ++ Text.join ", " texts ++ "\x7d"
  | outer levels => (around.getD levels .square).dots

/-- The texts for some values. -/
def shownItems (around : List Bracket) : List Value → List Text
  | [] => []
  | v :: rest => shownWithin around v :: shownItems around rest

/-- The texts for some entries. -/
def shownEntries (around : List Bracket) : List (Value × Value) → List Text
  | [] => []
  | (k, v) :: rest =>
    (shownWithin around k ++ ": " ++ shownWithin around v) :: shownEntries around rest

end

/-- The text for a value. -/
def shown (v : Value) : Text := shownWithin [] v

mutual

/-- Whether an integer in a value has more digits than are converted to text. -/
def hasLongInteger : Value → Bool
  | int n => Nat.pow 10 digitLimit ≤ n.natAbs
  | list items => anyLongInteger items
  | mapping entries => anyLongEntry entries
  | tuple items => anyLongInteger items
  | set items => anyLongInteger items
  | _ => false

/-- Whether one of some values holds such an integer. -/
def anyLongInteger : List Value → Bool
  | [] => false
  | v :: rest => hasLongInteger v || anyLongInteger rest

/-- Whether one of some entries holds such an integer, in its key or in its value. -/
def anyLongEntry : List (Value × Value) → Bool
  | [] => false
  | (k, v) :: rest => hasLongInteger k || hasLongInteger v || anyLongEntry rest

end

/-- The text for a value, if its integers can be converted. -/
def shown? (v : Value) : Except Fault Text :=
  if v.hasLongInteger then .error .integerTooLong else .ok v.shown

end Value

end ToolPolicy
