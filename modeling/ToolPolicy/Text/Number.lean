import ToolPolicy.Text.Class
import ToolPolicy.Fault

/-!
# Reading integers

Integers are written with an optional sign, digits of any script, and single underscores between
digits; white space around them is skipped. In base ten there is a limit on the number of digits,
which counts before anything that follows the digits.
-/

namespace ToolPolicy

/-- White space that may stand around a number: all but the four separators of ASCII. -/
def CodePoint.isSpaceAround (c : CodePoint) : Bool := isSpace c && !(28 ≤ c && c ≤ 31)

namespace Text

/-- A text with the digits of other scripts replaced by those of ASCII. -/
def withPlainDigits (t : Text) : Text :=
  t.map fun c => match CodePoint.decimalValue? c with
    | some v => 48 + v
    | none => c

/-- Whether a code point is a digit of a base or an underscore. -/
def belongsToNumber (base : Nat) (c : CodePoint) : Bool :=
  c == 95 || (CodePoint.digitValue? c).any (· < base)

/-- The digits and underscores at the beginning of a text, and what follows them. -/
def digitRun (base : Nat) (t : Text) : Text × Text :=
  (t.takeWhile (belongsToNumber base), t.dropWhile (belongsToNumber base))

/-- Whether there are digits, with every underscore between two of them. -/
def isWellSeparated (run : Text) : Bool := (splitOn 95 run).all fun piece => !piece.isEmpty

/-- The number that digits write. -/
def ofDigits (base : Nat) (digits : List Nat) : Nat :=
  digits.foldl (fun n d => n * base + d) 0

/-- Drops the letters that announce a base other than ten. -/
def dropBasePrefix (base : Nat) (t : Text) : Text :=
  match t with
  | 48 :: c :: rest =>
    if (base = 16 && (c == 120 || c == 88)) || (base = 8 && (c == 111 || c == 79))
        || (base = 2 && (c == 98 || c == 66)) then
      match rest with
      | 95 :: more => more
      | _ => rest
    else t
  | _ => t

/-- Whether a number is negative, and what follows its sign. -/
def splitSign (t : Text) : Bool × Text :=
  match t with
  | 45 :: rest => (true, rest)
  | 43 :: rest => (false, rest)
  | _ => (false, t)

/-- Reads an integer in base 2, 8, 10 or 16. -/
def readInteger (base : Nat) (t : Text) : Except Fault Int :=
  let (negative, body) := splitSign (withPlainDigits (trimBoth CodePoint.isSpaceAround t))
  let (run, rest) := digitRun base (dropBasePrefix base body)
  let digits := run.filterMap CodePoint.digitValue?
  if !isWellSeparated run then .error (.notAnInteger base t)
  else if base = 10 && digitLimit < digits.length then .error (.tooManyDigits digits.length)
  else if !rest.isEmpty then .error (.notAnInteger base t)
  else .ok (if negative then -(ofDigits base digits : Int) else ofDigits base digits)

end Text

end ToolPolicy
