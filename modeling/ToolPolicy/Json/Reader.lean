import ToolPolicy.Value.Basic

/-!
# Reading JSON

`Json.read` gives the value of a JSON text, or the first thing that is wrong with it and where.
Beyond the standard it takes `NaN`, `Infinity` and `-Infinity`; an escape may leave half of a
surrogate pair on its own; of two fields with one name the last counts, in the place of the first.

The readers return what follows the part they have read, and report an error by how much of
the text is left at it. `readString_quote` and `readString_plain` are the equations for
strings without escapes.
-/

namespace ToolPolicy.Json

/-- Why a text is not JSON. -/
inductive Cause where
  | byteOrderMark
  | expectingValue
  | expectingName
  | expectingColon
  | expectingComma
  | extraData
  | unterminatedString
  | controlCharacter
  | badEscape
  | badUnicodeEscape
  deriving DecidableEq, Repr

/-- The words for a cause. -/
def Cause.message : Cause → Text
  | byteOrderMark => "Unexpected UTF-8 BOM (decode using utf-8-sig)"
  | expectingValue => "Expecting value"
  | expectingName => "Expecting property name enclosed in double quotes"
  | expectingColon => "Expecting ':' delimiter"
  | expectingComma => "Expecting ',' delimiter"
  | extraData => "Extra data"
  | unterminatedString => "Unterminated string starting at"
  | controlCharacter => "Invalid control character at"
  | badEscape => "Invalid \\escape"
  | badUnicodeEscape => "Invalid \\uXXXX escape"

/-- A cause, and how much of the text is left where it shows. -/
structure Flaw where
  cause : Cause
  left : Nat
  deriving DecidableEq, Repr

/-- What can keep a text from being read. -/
inductive Failure where
  | flaw (f : Flaw)
  /-- Lists, or objects, nested too deeply. -/
  | tooDeep (object : Bool)
  | fault (f : Fault)
  deriving DecidableEq, Repr

namespace Flaw

/-- The position of a flaw in its text. -/
def position (f : Flaw) (document : Text) : Nat := document.length - f.left

/-- The text of a flaw. -/
def message (f : Flaw) (document : Text) : Text :=
  let position := f.position document
  let before := document.take position
  let column := (before.reverse.takeWhile (· != 10)).length + 1
  f.cause.message ++ ": line " ++ Text.ofNat (before.count 10 + 1) ++ " column "
    ++ Text.ofNat column ++ " (char " ++ Text.ofNat position ++ ")"

end Flaw

/-- How deeply lists and objects may be nested. -/
def depthLimit : Nat := 900

/-- A flaw at a place, given by what follows it. -/
def flawAt {α : Type} (cause : Cause) (rest : Text) : Except Failure α :=
  .error (.flaw ⟨cause, rest.length⟩)

/-- The white space of JSON. -/
def isBlank (c : CodePoint) : Bool := c == 32 || c == 9 || c == 10 || c == 13

/-- What follows white space. -/
def skipBlanks (t : Text) : Text := t.dropWhile isBlank

/-- What follows a word, if the text begins with it. -/
def afterWord? (word t : Text) : Option Text :=
  if word.isPrefixOf t then some (t.drop word.length) else none

/-! ## Strings -/

/-- The value of a hexadecimal digit. -/
def hexValue? (c : CodePoint) : Option Nat :=
  if CodePoint.isHexDigit c then CodePoint.digitValue? c else none

/-- The number of four hexadecimal digits. -/
def hexFour? (a b c d : CodePoint) : Option Nat := do
  let a ← hexValue? a
  let b ← hexValue? b
  let c ← hexValue? c
  let d ← hexValue? d
  return ((a * 16 + b) * 16 + c) * 16 + d

/-- The code point of a surrogate pair. -/
def joinSurrogates (high low : CodePoint) : CodePoint :=
  0x10000 + (high - 0xD800) * 0x400 + (low - 0xDC00)

/-- What a one-letter escape stands for. -/
def simpleEscape? (c : CodePoint) : Option CodePoint :=
  if c = 34 || c = 92 || c = 47 then some c
  else if c = 'b' then some 8
  else if c = 'f' then some 12
  else if c = 'n' then some 10
  else if c = 'r' then some 13
  else if c = 't' then some 9
  else none

/-- What an escape stands for, from the code point after its backslash on, and how many code points
it has from there. The opening quote of its string has `start` code points from itself on. -/
def readEscape (start : Nat) (t : Text) : Except Failure (CodePoint × Nat) :=
  match t with
  | [] => .error (.flaw ⟨.unterminatedString, start⟩)
  | 117 :: rest =>
    match rest with
    | a :: b :: c :: d :: after =>
      if after.isEmpty then flawAt .badUnicodeEscape t
      else match hexFour? a b c d with
        | none => flawAt .badUnicodeEscape t
        | some high =>
          if CodePoint.isHighSurrogate high && 6 < after.length then
            match after with
            | 92 :: 117 :: e :: f :: g :: h :: _ =>
              match hexFour? e f g h with
              | none => flawAt .badUnicodeEscape (after.drop 1)
              | some low =>
                if CodePoint.isLowSurrogate low then .ok (joinSurrogates high low, 11)
                else .ok (high, 5)
            | _ => .ok (high, 5)
          else .ok (high, 5)
    | _ => flawAt .badUnicodeEscape t
  | c :: _ =>
    match simpleEscape? c with
    | some v => .ok (v, 1)
    | none => .error (.flaw ⟨.badEscape, t.length + 1⟩)

/-- Puts a code point in front of a string that has been read. -/
def consTo (c : CodePoint) (r : Except Failure (Text × Text)) : Except Failure (Text × Text) :=
  r.map fun (t, rest) => (c :: t, rest)

/-- The rest of a string, and what follows its closing quote; the first `taken` code points belong
to an escape that has been read. -/
def readString (start taken : Nat) : Text → Except Failure (Text × Text)
  | [] => .error (.flaw ⟨.unterminatedString, start⟩)
  | c :: rest =>
    match taken with
    | more + 1 => readString start more rest
    | 0 =>
      if c = 34 then .ok ([], rest)
      else if c = 92 then
        match readEscape start rest with
        | .error f => .error f
        | .ok (v, length) => consTo v (readString start length rest)
      else if c ≤ 31 then flawAt .controlCharacter (c :: rest)
      else consTo c (readString start 0 rest)

/-! ## Numbers -/

/-- Digits at the start of a text, and what follows them. -/
def takeDigits (t : Text) : Text × Text :=
  (t.takeWhile CodePoint.isAsciiDigit, t.dropWhile CodePoint.isAsciiDigit)

/-- The fraction of a number: its digits after the point, and what follows it. -/
def readFraction (t : Text) : Text × Text :=
  match t with
  | 46 :: c :: rest => if CodePoint.isAsciiDigit c then takeDigits (c :: rest) else ([], t)
  | _ => ([], t)

/-- The exponent of a number, if it has one, and what follows it. -/
def readExponent? (t : Text) : Option (Int × Text) :=
  match t with
  | c :: rest =>
    if c = 'e' || c = 'E' then
      let (negative, body) : Bool × Text := match rest with
        | 45 :: more => (true, more)
        | 43 :: more => (false, more)
        | _ => (false, rest)
      let (digits, after) := takeDigits body
      if digits.isEmpty then none
      else
        let n : Nat := Text.toNatBase 10 digits
        some (if negative then -(n : Int) else n, after)
    else none
  | [] => none

/-- A number, at whose first code point the text begins. -/
def readNumber (t : Text) : Except Failure (Value × Text) :=
  let (negative, body) : Bool × Text := match t with
    | 45 :: rest => (true, rest)
    | _ => (false, t)
  let whole? : Option (Text × Text) := match body with
    | 48 :: rest => some ([48], rest)
    | c :: _ => if CodePoint.isAsciiDigit c then some (takeDigits body) else none
    | [] => none
  match whole? with
  | none => flawAt .expectingValue t
  | some (whole, rest) =>
    let (fraction, rest) := readFraction rest
    let (exponent, rest) : Option Int × Text := match readExponent? rest with
      | some (e, after) => (some e, after)
      | none => (none, rest)
    if fraction.isEmpty && exponent.isNone then
      if digitLimit < whole.length then .error (.fault (.tooManyDigits whole.length))
      else
        let n := Text.toNatBase 10 whole
        .ok (.int (if negative then -(n : Int) else n), rest)
    else
      let x := Binary64.ofDecimal negative (Text.toNatBase 10 (whole ++ fraction))
        (exponent.getD 0 - fraction.length)
      .ok (.float x, rest)

/-- A word that stands for a value, and what follows it. -/
def readWord? (t : Text) : Option (Value × Text) :=
  let words : List (String × Value) :=
    [("null", .null), ("true", .bool true), ("false", .bool false), ("NaN", .float .nan),
      ("Infinity", .float (.infinite false)), ("-Infinity", .float (.infinite true))]
  words.findSome? fun (word, v) => (afterWord? (Text.ofString word) t).map fun rest => (v, rest)

/-! ## Values -/

mutual

/-- A value, at whose first code point the text begins. -/
def readValue : Nat → Nat → Text → Except Failure (Value × Text)
  | 0, _, t => flawAt .expectingValue t
  | fuel + 1, depth, t =>
    match t with
    | [] => flawAt .expectingValue []
    | c :: rest =>
      if c = 34 then (readString t.length 0 rest).map fun (s, after) => (.str s, after)
      else if c = 91 then
        if depthLimit ≤ depth then .error (.tooDeep false)
        else match skipBlanks rest with
          | 93 :: after => .ok (.list [], after)
          | inside => readItems fuel (depth + 1) [] inside
      else if c = 123 then
        if depthLimit ≤ depth then .error (.tooDeep true)
        else match skipBlanks rest with
          | 125 :: after => .ok (.mapping [], after)
          | inside => readFields fuel (depth + 1) [] inside
      else match readWord? t with
        | some found => .ok found
        | none => readNumber t

/-- The items of a list from the next one on; those so far are given last first. -/
def readItems : Nat → Nat → List Value → Text → Except Failure (Value × Text)
  | 0, _, _, t => flawAt .expectingValue t
  | fuel + 1, depth, items, t =>
    match readValue fuel depth t with
    | .error f => .error f
    | .ok (v, rest) =>
      match skipBlanks rest with
      | 93 :: after => .ok (.list (v :: items).reverse, after)
      | 44 :: after => readItems fuel depth (v :: items) (skipBlanks after)
      | other => flawAt .expectingComma other

/-- The fields of an object from the next one on, after those so far. -/
def readFields : Nat → Nat → List (Value × Value) → Text → Except Failure (Value × Text)
  | 0, _, _, t => flawAt .expectingName t
  | fuel + 1, depth, fields, t =>
    match t with
    | 34 :: inside =>
      match readString t.length 0 inside with
      | .error f => .error f
      | .ok (name, rest) =>
        match skipBlanks rest with
        | 58 :: after =>
          match readValue fuel depth (skipBlanks after) with
          | .error f => .error f
          | .ok (v, rest) =>
            let fields := Value.putField name v fields
            match skipBlanks rest with
            | 125 :: after => .ok (.mapping fields, after)
            | 44 :: after => readFields fuel depth fields (skipBlanks after)
            | other => flawAt .expectingComma other
        | other => flawAt .expectingColon other
    | other => flawAt .expectingName other

end

/-- The value of a JSON text. -/
def read (document : Text) : Except Failure Value :=
  if document.head? = some 0xFEFF then flawAt .byteOrderMark document
  else
    match readValue (2 * document.length + 2) 0 (skipBlanks document) with
    | .error f => .error f
    | .ok (v, rest) =>
      match skipBlanks rest with
      | [] => .ok v
      | other => flawAt .extraData other

/-! ## Small laws -/

theorem skipBlanks_eq_self {c : CodePoint} (h : isBlank c = false) (rest : Text) :
    skipBlanks (c :: rest) = c :: rest := by
  simp [skipBlanks, h]

@[simp] theorem readString_quote (start : Nat) (rest : Text) :
    readString start 0 (34 :: rest) = .ok ([], rest) := by
  simp [readString]

theorem readString_plain {c : CodePoint} (h : 31 < c) (hq : c ≠ 34) (hb : c ≠ 92) (start : Nat)
    (rest : Text) : readString start 0 (c :: rest) = consTo c (readString start 0 rest) := by
  have : ¬ c ≤ 31 := Nat.not_le.mpr h
  simp [readString, hq, hb, this]

end ToolPolicy.Json
