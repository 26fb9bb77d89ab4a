import ToolPolicy.Text.Number

/-!
# Floating-point numbers

Numbers of 64 bits with a sign, a significand below `2 ^ 53` and a power of two, kept exactly:
nothing here is computed by a processor. A decimal text is rounded to the nearest number, ties to an
even significand, and a number is written with the fewest digits that read back as the same number.
-/

namespace ToolPolicy

/-- A floating-point number; a finite one is `significand * 2 ^ exponent`, with its sign. -/
inductive Binary64 where
  | nan
  | infinite (negative : Bool)
  | finite (negative : Bool) (significand : Nat) (exponent : Int)
  deriving DecidableEq, Repr

namespace Binary64

/-- The exponent of the smallest numbers. -/
def leastExponent : Int := -1074

/-- The exponent of the largest numbers. -/
def greatestExponent : Int := 971

/-- The first number that no significand reaches. -/
def significandEnd : Nat := 0x20000000000000

/-! ## Rounding -/

/-- The nearest natural number to a quotient, a half going to the even neighbour. -/
def roundDiv (num den : Nat) : Nat :=
  let q := num / den
  let r := num % den
  if den < 2 * r || (den == 2 * r && q % 2 == 1) then q + 1 else q

/-- Numerator and denominator of a quotient divided by a power of a base. -/
def scaleDown (base : Nat) (num den : Nat) (e : Int) : Nat × Nat :=
  if 0 ≤ e then (num, den * base.pow e.toNat) else (num * base.pow (-e).toNat, den)

/-- The number nearest to a quotient. -/
def ofRatio (negative : Bool) (num den : Nat) : Binary64 :=
  if num = 0 then finite negative 0 leastExponent
  else
    let guess := max ((num.log2 : Int) - (den.log2 : Int) - 53) leastExponent
    let (n, d) := scaleDown 2 num den guess
    let e := if significandEnd ≤ n / d then guess + 1 else guess
    let (n, d) := scaleDown 2 num den e
    let s := roundDiv n d
    let (s, e) := if s = significandEnd then (s / 2, e + 1) else (s, e)
    if greatestExponent < e then infinite negative else finite negative s e

/-- The number nearest to `digits * 10 ^ e`. -/
def ofDecimal (negative : Bool) (digits : Nat) (e : Int) : Binary64 :=
  let size : Int := (Nat.toDigits 10 digits).length
  if digits = 0 then finite negative 0 leastExponent
  else if 400 < size + e then infinite negative
  else if size + e < -400 then finite negative 0 leastExponent
  else
    let (n, d) := scaleDown 10 digits 1 (-e)
    ofRatio negative n d

/-! ## Arithmetic for places of sixty -/

/-- Whether a number is zero, of either sign. -/
def isZero : Binary64 → Bool
  | finite _ 0 _ => true
  | _ => false

/-- Changes the sign. -/
def neg : Binary64 → Binary64
  | nan => nan
  | infinite negative => infinite !negative
  | finite negative s e => finite (!negative) s e

/-- A finite number as a signed significand over a power of two. -/
def signed (negative : Bool) (s : Nat) : Int := if negative then -(s : Int) else s

/-- The number nearest to `n * 2 ^ e`. -/
def ofScaled (n : Int) (e : Int) : Binary64 :=
  let (num, den) := scaleDown 2 n.natAbs 1 (-e)
  ofRatio (n < 0) num den

/-- The rounded sum. -/
def add : Binary64 → Binary64 → Binary64
  | nan, _ => nan
  | _, nan => nan
  | infinite a, infinite b => if a = b then infinite a else nan
  | infinite a, _ => infinite a
  | _, infinite b => infinite b
  | finite a s e, finite b t f =>
    let least := min e f
    let sum :=
      signed a (s * Nat.pow 2 (e - least).toNat) + signed b (t * Nat.pow 2 (f - least).toNat)
    if sum = 0 then finite (a && b) 0 leastExponent else ofScaled sum least

/-- The rounded product. -/
def mul : Binary64 → Binary64 → Binary64
  | nan, _ => nan
  | _, nan => nan
  | infinite a, infinite b => infinite (a != b)
  | infinite a, finite b t _ => if t = 0 then nan else infinite (a != b)
  | finite a s _, infinite b => if s = 0 then nan else infinite (a != b)
  | finite a s e, finite b t f =>
    if s * t = 0 then finite (a != b) 0 leastExponent
    else ofScaled (signed (a != b) (s * t)) (e + f)

/-- The number nearest to a natural number, unless that is beyond all of them. -/
def ofNat (n : Nat) : Except Fault Binary64 :=
  match ofRatio false n 1 with
  | infinite _ => .error .integerTooLarge
  | x => .ok x

/-! ## Reading -/

/-- The digits at the start of a text and what follows them; single underscores between digits are
skipped. -/
def takeDigits (afterDigit : Bool) : Text → List Nat × Text
  | [] => ([], [])
  | c :: rest =>
    match CodePoint.decimalValue? c with
    | some v =>
      let (digits, more) := takeDigits true rest
      (v :: digits, more)
    | none =>
      if c = 95 && afterDigit then
        match rest with
        | d :: _ =>
          if CodePoint.isDecimal d then takeDigits false rest else ([], c :: rest)
        | [] => ([], c :: rest)
      else ([], c :: rest)

/-- The exponent at the end of a decimal text, if the text ends with it. -/
def readExponent : Text → Option Int
  | [] => some 0
  | c :: rest =>
    if c = 'e' || c = 'E' then
      let (negative, body) : Bool × Text := match rest with
        | 45 :: more => (true, more)
        | 43 :: more => (false, more)
        | _ => (false, rest)
      match takeDigits false body with
      | ([], _) => none
      | (digits, []) =>
        let n : Nat := digits.foldl (fun n d => n * 10 + d) 0
        some (if negative then -(n : Int) else n)
      | _ => none
    else none

/-- A decimal number without a sign. -/
def readUnsigned (negative : Bool) (t : Text) : Option Binary64 :=
  let word := t.map CodePoint.asciiLower
  if word = Text.ofString "inf" || word = Text.ofString "infinity" then some (infinite negative)
  else if word = Text.ofString "nan" then some nan
  else
    let (whole, rest) := takeDigits false t
    let (fraction, rest) : List Nat × Text := match rest with
      | 46 :: more => takeDigits false more
      | _ => ([], rest)
    if whole.isEmpty && fraction.isEmpty then none
    else match readExponent rest with
      | none => none
      | some e =>
        let digits := (whole ++ fraction).foldl (fun n d => n * 10 + d) 0
        some (ofDecimal negative digits (e - fraction.length))

/-- Reads a decimal number, with white space around it and an optional sign. -/
def read (t : Text) : Except Fault Binary64 :=
  let (negative, body) := Text.splitSign (Text.trimBoth CodePoint.isSpaceAround t)
  match readUnsigned negative body with
  | some x => .ok x
  | none => .error (.notAFloat t)

/-! ## Writing -/

/-- The power of ten of the first digit of a quotient that is not zero. -/
def leadingPower (num den : Nat) : Int :=
  let guess := (((num.log2 : Int) - (den.log2 : Int)) * 30103) / 100000
  let reaches (p : Int) : Bool :=
    let (n, d) := scaleDown 10 num den p
    d ≤ n
  if reaches (guess + 1) then guess + 1
  else if reaches guess then guess
  else guess - 1

/-- Drops zeros at the end of a number, counting them. -/
def dropZeros : Nat → Nat → Int → Nat × Int
  | 0, n, e => (n, e)
  | fuel + 1, n, e => if n % 10 = 0 && n != 0 then dropZeros fuel (n / 10) (e + 1) else (n, e)

/-- The number with the fewest digits between two bounds that is nearest to a value in between; the
bounds count if `closed`. All three are given over one denominator. -/
def fewestDigits (low value high den : Nat) (closed : Bool) : Nat × Int :=
  let top := leadingPower value den
  let inside (c : Nat) (k : Int) : Bool :=
    let (n, d) := scaleDown 10 c 1 (-k)
    if closed then low * d ≤ n * den && n * den ≤ high * d
    else low * d < n * den && n * den < high * d
  let rec go : Nat → Nat → Nat × Int
    | 0, _ => (value / den, 0)
    | fuel + 1, count =>
      let k := top - count
      let (n, d) := scaleDown 10 value den k
      let below := n / d
      let nearest := roundDiv n d
      let other := if nearest = below then below + 1 else below
      if inside nearest k then dropZeros 20 nearest k
      else if inside other k then dropZeros 20 other k
      else go fuel (count + 1)
  go 20 0

/-- The shortest decimal digits of a finite number, and the power of ten of the last one. -/
def shortest (s : Nat) (e : Int) : Nat × Int :=
  let isLeastOfPower := s = significandEnd / 2 && leastExponent < e
  let scale (n : Nat) : Nat := if 0 ≤ e then n * Nat.pow 2 e.toNat else n
  let den := if 0 ≤ e then 4 else 4 * Nat.pow 2 (-e).toNat
  fewestDigits (scale (4 * s - (if isLeastOfPower then 1 else 2))) (scale (4 * s))
    (scale (4 * s + 2)) den (s % 2 == 0)

/-- The text of a finite number: positional from `10 ^ -4` up to `10 ^ 16`, with at least one digit
after the point, and with a power of ten outside. -/
def decimalText (digits : Text) (point : Int) : Text :=
  let blank : CodePoint := '0'
  if -4 < point && point ≤ 16 then
    if point ≤ 0 then "0." ++ List.replicate (-point).toNat blank ++ digits
    else if digits.length ≤ point.toNat then
      digits ++ List.replicate (point.toNat - digits.length) blank ++ ".0"
    else digits.take point.toNat ++ "." ++ digits.drop point.toNat
  else
    let power := point - 1
    let shown := Text.ofNat power.natAbs
    let fraction : Text := if digits.length ≤ 1 then [] else 46 :: digits.drop 1
    digits.take 1 ++ fraction ++ (if power < 0 then "e-" else "e+")
      ++ List.replicate (2 - shown.length) blank ++ shown

/-- The text of a number. -/
def text : Binary64 → Text
  | nan => "nan"
  | infinite negative => if negative then "-inf" else "inf"
  | finite negative s e =>
    let sign : Text := if negative then "-" else []
    if s = 0 then sign ++ "0.0"
    else
      let (digits, power) := shortest s e
      let shown := Text.ofNat digits
      sign ++ decimalText shown (shown.length + power)

/-- The integer that a number is equal to, if there is one. -/
def toInt? : Binary64 → Option Int
  | finite negative s e =>
    if 0 ≤ e then some (signed negative (s * Nat.pow 2 e.toNat))
    else
      let d := Nat.pow 2 (-e).toNat
      if s % d = 0 then some (signed negative (s / d)) else none
  | _ => none

end Binary64

end ToolPolicy
