import ToolPolicy.Text.Base64
import ToolPolicy.Text.LowerCase
import ToolPolicy.Text.Number
import ToolPolicy.Value.Basic
import ToolPolicy.Yaml.Node

/-!
# Values of scalars

A scalar becomes a value by its tag. The tag may have been written in front of any text, so the text
need not look like what the tag says; what then is wrong is a fault of the value and no flaw of the
document, except for binary data.
-/

namespace ToolPolicy.Yaml.ScalarValue

/-- A fault instead of a value. -/
def fault {α : Type} (f : Fault) : Except Failure α := .error (.fault f)

/-- A result that may be a fault. -/
def orFault {α : Type} (r : Except Fault α) : Except Failure α := r.mapError .fault

/-- A text without underscores. -/
def withoutUnderscores (t : Text) : Text := t.filter (· != 95)

/-- Whether a number is negative, and the text after its sign; there has to be a text. -/
def splitSign (t : Text) : Except Failure (Bool × Text) :=
  if t.isEmpty then fault .emptyNumber else .ok (Text.splitSign t)

/-- The truth value of a word. -/
def ofBool (t : Text) : Except Failure Value :=
  let word := Text.lower t
  let isOne (words : List Text) : Bool := words.contains word
  if isOne ["yes", "true", "on"] then .ok (.bool true)
  else if isOne ["no", "false", "off"] then .ok (.bool false)
  else fault (.unknownWord word)

/-- The number that places of sixty make up. -/
def ofPlaces (digits : List Int) : Int := digits.foldl (fun n d => n * 60 + d) 0

/-- A natural number in one of its notations. -/
def magnitude (t : Text) : Except Failure Int :=
  match t with
  | [] => fault .emptyNumber
  | [48] => .ok 0
  | 48 :: 98 :: rest => orFault (Text.readInteger 2 rest)
  | 48 :: 120 :: rest => orFault (Text.readInteger 16 rest)
  | 48 :: _ => orFault (Text.readInteger 8 t)
  | _ =>
    if t.contains 58 then do
      return ofPlaces (← orFault ((Text.splitOn 58 t).mapM (Text.readInteger 10)))
    else orFault (Text.readInteger 10 t)

/-- The integer that a text stands for. -/
def ofInt (t : Text) : Except Failure Value := do
  let (isNegative, rest) ← splitSign (withoutUnderscores t)
  let n ← magnitude rest
  return .int (if isNegative then -n else n)

/-- The number that places of sixty make up, the last place first; `base` is
what the next one counts. -/
def ofFloatPlaces (sum : Binary64) (base : Nat) : List Binary64 → Except Fault Binary64
  | [] => .ok sum
  | x :: rest => do ofFloatPlaces (sum.add (x.mul (← Binary64.ofNat base))) (base * 60) rest

/-- How not-a-number is written. -/
def nanWord : Text := ".nan"

/-- Whether a text is not-a-number by the word for it, with a sign perhaps. -/
def isNanWord (t : Text) : Bool := (Text.splitSign (Text.lower (withoutUnderscores t))).2 == nanWord

/-- The number with a point that a text stands for. -/
def ofFloat (t : Text) : Except Failure Value := do
  let (isNegative, rest) ← splitSign (Text.lower (withoutUnderscores t))
  let signed (x : Binary64) : Value := .float (if isNegative then x.neg else x)
  if rest == Text.ofString ".inf" then return signed (.infinite false)
  else if rest == nanWord then return .float .nan
  else if rest.contains 58 then do
    let places ← orFault ((Text.splitOn 58 rest).mapM Binary64.read)
    return signed (← orFault (ofFloatPlaces (.ofDecimal false 0 0) 1 places.reverse))
  else return signed (← orFault (Binary64.read rest))

/-- The date or the time that a text stands for. -/
def ofTimestamp (t : Text) : Except Failure Value :=
  match Moment.read? (Tag.withoutFinalBreak t) with
  | none => fault .notATimestamp
  | some m =>
    match m.clock with
    | none => orFault (m.date.validate.map .date)
    | some c => orFault ((m.timestamp c).validate.map .timestamp)

/-- The bytes that a text stands for; `place` is where it begins. -/
def ofBinary (place : Mark) (t : Text) : Except Failure Value :=
  match t.findIdx? (128 ≤ ·) with
  | some position => .error (.flaw ⟨.binaryNotAscii t position, place, none, none⟩)
  | none =>
    match Base64.decode t with
    | .ok bytes => .ok (.bytes bytes)
    | .error flaw => .error (.flaw ⟨.binaryNotBase64 flaw, place, none, none⟩)

/-- The value of a scalar with a tag, which begins at a place. -/
def ofText (place : Mark) (tag : Tag) (t : Text) : Except Failure Value :=
  match tag with
  | .null => .ok .null
  | .bool => ofBool t
  | .int => ofInt t
  | .float => ofFloat t
  | .timestamp => ofTimestamp t
  | .binary => ofBinary place t
  | .str => .ok (.str t)
  | tag => .error (.flaw ⟨.unknownTag tag.text, place, none, none⟩)

@[simp] theorem ofText_str (place : Mark) (t : Text) : ofText place .str t = .ok (.str t) := rfl

end ToolPolicy.Yaml.ScalarValue
