import ToolPolicy.Console.Literal.Refusal
import ToolPolicy.Text.CharacterName
import ToolPolicy.Text.LowerCase

/-!
# Tokens of literals

Literals are written with words, numbers, quoted texts and signs. Cutting a text into these tokens
finds what is wrong with numbers, quotes, brackets and characters, wherever it is in the text; what
is wrong within a quoted text, or behind a backslash or an open bracket, is kept with the token,
because it only counts when a reader gets there.
-/

namespace ToolPolicy.Literal

/-! ## Tokens -/

/-- A token, or the place behind which nothing can be read. -/
inductive Token where
  | word (t : Text)
  /-- A word that cannot be a name. -/
  | keyword (t : Text)
  /-- A word that is a value. -/
  | constant (t : Text)
  | number (isImaginary : Bool)
  | quoted (isBytes isFilled : Bool) (flaw : Option Refusal)
  | sign (t : Text)
  | stop (why : Refusal)
  deriving DecidableEq, Repr

/-- The words that are values. -/
def constants : List Text := ["True", "False", "None"]

/-- The words that cannot be names. -/
def keywords : List Text := Text.words
  "and as assert async await break class continue def del elif else except finally for from global
   if import in is lambda nonlocal not or pass raise return try while with yield"

/-- The token of a word. -/
def tokenOfWord (t : Text) : Token :=
  if constants.contains t then .constant t else if keywords.contains t then .keyword t else .word t

/-- The bracket that closes another one. -/
def closingOf (c : CodePoint) : CodePoint := if c = 40 then 41 else c + 2

/-- Whether a code point opens a bracket. -/
def isOpening (c : CodePoint) : Bool := c == 40 || c == 91 || c == 123

/-- Whether a code point closes a bracket. -/
def isClosing (c : CodePoint) : Bool := c == 41 || c == 93 || c == 125

/-- Whether a code point may stand in a word. -/
def inWord (c : CodePoint) : Bool := CodePoint.isAsciiWord c || 128 ≤ c

/-- Signs of more than one code point, longer ones first. -/
def longSigns : List Text := Text.words
  "**= //= >>= <<= ... != %= &= ** *= += -= -> // /= := << <= <> == >= >> @= ^= |="

/-! ## Numbers -/

/-- What follows the digits of a number, when a digit has been read; a single underscore may
stand between digits. -/
def decimalTail : Text → Except Refusal Text
  | [] => .ok []
  | c :: rest =>
    if CodePoint.isAsciiDigit c then decimalTail rest
    else if c = 95 then
      if rest.head?.any CodePoint.isAsciiDigit then decimalTail rest
      else .error (.badNumber .decimal)
    else .ok (c :: rest)

/-- What is wrong where a digit of a base is missing. -/
def missingDigit (form : NumberForm) : Text → Refusal
  | [] => .badNumber form
  | c :: _ =>
    if CodePoint.isAsciiDigit c && form != .hexadecimal then .badDigit c form else .badNumber form

/-- What follows the digits of a number in another base; underscores may stand in
front of single digits. -/
def basedTail (form : NumberForm) (isDigit : CodePoint → Bool) (afterDigit : Bool) :
    Text → Except Refusal Text
  | [] => if afterDigit then .ok [] else .error (.badNumber form)
  | c :: rest =>
    if isDigit c then basedTail form isDigit true rest
    else if c = 95 then
      if rest.head?.any isDigit then basedTail form isDigit false rest
      else .error (missingDigit form rest)
    else if afterDigit && !(CodePoint.isAsciiDigit c && form != .hexadecimal) then .ok (c :: rest)
    else .error (missingDigit form (c :: rest))

/-- Whether a text begins with a word that ends there. -/
def startsWithWord (t word : Text) : Bool :=
  Text.startsWith t word && !(t.drop word.length).head?.any inWord

/-- Whether a word that may follow a number stands at the beginning of a text. -/
def startsWithOperator (t : Text) : Bool :=
  (["and", "else", "for", "or", "not"] : List Text).any (startsWithWord t)
    || (["if", "in", "is"] : List Text).any (Text.startsWith t)

/-- What follows a number, which must not run into a word. -/
def numberEnd (form : NumberForm) (rest : Text) : Except Refusal Text :=
  if startsWithOperator rest || !rest.head?.any inWord then .ok rest else .error (.badNumber form)

/-- Whether a text goes on with a letter, in either case. -/
def goesOnWith (small : CodePoint) (t : Text) : Bool :=
  t.head?.any fun c => c == small || c + 32 == small

/-- What follows a decimal number behind its digits and its fraction, and whether
the number is imaginary. -/
def afterFraction (t : Text) : Except Refusal (Bool × Text) := do
  let rest ←
    if goesOnWith 'e' t then
      let power := t.drop 1
      if power.head?.any fun c => c == 43 || c == 45 then
        if (power.drop 1).head?.any CodePoint.isAsciiDigit then decimalTail (power.drop 1)
        else throw (.badNumber .decimal)
      else if power.head?.any CodePoint.isAsciiDigit then decimalTail power
      else numberEnd .decimal t
    else pure t
  if goesOnWith 'j' rest then return (true, ← numberEnd .imaginary (rest.drop 1))
  else return (false, ← numberEnd .decimal rest)

/-- What follows a decimal number behind its first digits. -/
def afterDigits (t : Text) : Except Refusal (Bool × Text) := do
  match t with
  | 46 :: rest =>
    if rest.head?.any CodePoint.isAsciiDigit then afterFraction (← decimalTail rest)
    else afterFraction rest
  | _ => afterFraction t

/-- What follows a number that begins with a zero, behind that zero. -/
def afterZero (t : Text) : Except Refusal (Bool × Text) := do
  if goesOnWith 'x' t then
    return (false,
      ← numberEnd .hexadecimal (← basedTail .hexadecimal CodePoint.isHexDigit false (t.drop 1)))
  else if goesOnWith 'o' t then
    return (false, ← numberEnd .octal (← basedTail .octal CodePoint.isOctalDigit false (t.drop 1)))
  else if goesOnWith 'b' t then
    return (false,
      ← numberEnd .binary (← basedTail .binary (fun c => c == 48 || c == 49) false (t.drop 1)))
  else
    let rest ← decimalTail t
    let digits := t.take (t.length - rest.length)
    let goesOn := rest.head? = some 46 || goesOnWith 'e' rest || goesOnWith 'j' rest
    if digits.any (fun c => c != 48 && c != 95) && !goesOn then throw .leadingZeros
    else afterDigits rest

/-- What follows a number that begins with a digit or a point, and whether it is imaginary. -/
def afterNumber : Text → Except Refusal (Bool × Text)
  | 48 :: rest => afterZero rest
  | 46 :: rest => do afterFraction (← decimalTail rest)
  | t => do afterDigits (← decimalTail t)

/-! ## Quoted texts -/

/-- What a quoted text holds and what follows it, after the quotes that open it. -/
def splitQuoted? (quote : CodePoint) (isTriple : Bool) : Text → Option (Text × Text)
  | [] => none
  | 92 :: c :: rest => (splitQuoted? quote isTriple rest).map fun (held, after) =>
    (92 :: c :: held, after)
  | c :: rest =>
    if c = quote && (!isTriple || Text.startsWith rest [quote, quote]) then
      some ([], rest.drop (if isTriple then 2 else 0))
    else if c = 10 && !isTriple then none
    else (splitQuoted? quote isTriple rest).map fun (held, after) => (c :: held, after)

/-- The number of places that a code point takes in a text whose escapes are counted: one that is
not ASCII is counted as it would be escaped. -/
def placesOf (c : CodePoint) : Nat := if c < 128 then 1 else 10

/-- The refusal of an escape with too few hexadecimal digits, or with too large a number. -/
def hexFlaw? (position count : Nat) (digits : Text) : Option Refusal :=
  let run := (digits.take count).takeWhile CodePoint.isHexDigit
  let why : Text := "truncated \\" ++ (if count = 2 then Text.ofString "xXX"
    else if count = 4 then Text.ofString "uXXXX" else Text.ofString "UXXXXXXXX") ++ " escape"
  if run.length < count then some (.badEscape position (position + 1 + run.length) why)
  else if 0x10FFFF < Text.toNatBase 16 run then
    some (.badEscape position (position + 1 + run.length) "illegal Unicode character")
  else none

/-- The refusal of an escape by a name. -/
def nameFlaw? (position : Nat) (t : Text) : Option Refusal :=
  let malformed : Text := "malformed \\N character escape"
  match t with
  | 123 :: rest =>
    match Text.cutAt 125 rest with
    | (name, none) => some (.badEscape position (position + 2 + name.weight placesOf) malformed)
    | ([], some _) => some (.badEscape position (position + 2) malformed)
    | (name, some _) =>
      if (CodePoint.ofName? name).isSome then none
      else some
        (.badEscape position (position + 3 + name.weight placesOf) "unknown Unicode character name")
  | _ => some (.badEscape position (position + 1) malformed)

/-- What is wrong with the escapes of a text. -/
def escapeFlaw? (position : Nat) : Text → Option Refusal
  | [] => none
  | 92 :: c :: rest =>
    let here :=
      if c = 'x' then hexFlaw? position 2 rest
      else if c = 'u' then hexFlaw? position 4 rest
      else if c = 'U' then hexFlaw? position 8 rest
      else if c = 'N' then nameFlaw? position rest
      else none
    match here with
    | some flaw => some flaw
    | none => escapeFlaw? (position + (if c < 128 then 2 else 16)) rest
  | c :: rest => escapeFlaw? (position + placesOf c) rest

/-- What is wrong with the escapes of bytes. -/
def byteEscapeFlaw? (position : Nat) : Text → Option Refusal
  | [] => none
  | 92 :: c :: rest =>
    if c = 'x' && !((rest.take 2).length = 2 && (rest.take 2).all CodePoint.isHexDigit) then
      some (.badByteEscape position)
    else byteEscapeFlaw? (position + 2) rest
  | _ :: rest => byteEscapeFlaw? (position + 1) rest

/-- The words that may stand directly in front of a quote. -/
def quoteWords : List Text := ["b", "u", "r", "f", "br", "rb", "fr", "rf"]

/-- The token of a quoted text with a word in front of it. -/
def quotedToken (mark held : Text) : Token :=
  let isBytes := mark.contains 'b'
  let isRaw := mark.contains 'r'
  let flaw :=
    if isBytes && held.any fun c => 128 ≤ c then some .wideBytes
    else if isRaw then none
    else if isBytes then byteEscapeFlaw? 0 held
    else escapeFlaw? 0 held
  .quoted isBytes (mark.contains 'f') flaw

/-- The token at the quote that begins a text, with the word in front of it, and what follows. -/
def readQuoted (mark t : Text) : Except Refusal (Token × Text) :=
  let quote := t.headD 34
  let isTriple := Text.startsWith t [quote, quote, quote]
  match splitQuoted? quote isTriple (t.drop (if isTriple then 3 else 1)) with
  | some (held, after) => .ok (quotedToken mark held, after)
  | none => .error (if isTriple then .openTripleQuote else .openQuote)

/-! ## Cutting a text -/

/-- What is wrong with a word, if anything is. -/
def wordFlaw? : Text → Option Refusal
  | [] => none
  | c :: rest =>
    let bad :=
      if CodePoint.isNameStart c then rest.find? fun d => !CodePoint.isNameContinue d else some c
    bad.map fun d => if CodePoint.isPrintable d then .badCharacter d else .unprintable d

/-- The end of the tokens, behind which nothing can be read if a bracket is open. -/
def ending : List CodePoint → List Token
  | [] => []
  | bracket :: _ => [.stop (.neverClosed bracket)]

/-- The greatest number of brackets that may be open at once. -/
def bracketLimit : Nat := 200

/-- The tokens of a text, within some open brackets. -/
def tokens : Nat → List CodePoint → Text → Except Refusal (List Token)
  | 0, _, _ => .error .invalid
  | _ + 1, around, [] => .ok (ending around)
  | fuel + 1, around, c :: rest => do
    if c = 32 || c = 9 || c = 12 then tokens fuel around rest
    else if c = 10 || c = 13 then
      if around.isEmpty then return .sign [10] :: (← tokens fuel around rest)
      else tokens fuel around rest
    else if c = 35 then tokens fuel around (rest.dropWhile fun d => d != 10 && d != 13)
    else if c = 34 || c = 39 then
      let (token, rest) ← readQuoted [] (c :: rest)
      return token :: (← tokens fuel around rest)
    else if CodePoint.isAsciiDigit c || (c = 46 && rest.head?.any CodePoint.isAsciiDigit) then
      let (isImaginary, rest) ← afterNumber (c :: rest)
      return .number isImaginary :: (← tokens fuel around rest)
    else if inWord c then
      let run := (c :: rest).takeWhile inWord
      let after := (c :: rest).drop run.length
      if quoteWords.contains (Text.lower run) && after.head?.any fun d => d == 34 || d == 39 then
        let (token, rest) ← readQuoted (Text.lower run) after
        return token :: (← tokens fuel around rest)
      else
        match if run.all (· < 128) then none else wordFlaw? run with
        | some flaw => throw flaw
        | none => return tokenOfWord run :: (← tokens fuel around after)
    else if isOpening c then
      if bracketLimit ≤ around.length then throw .tooManyBrackets
      return .sign [c] :: (← tokens fuel (c :: around) rest)
    else if isClosing c then
      match around with
      | [] => throw (.unmatched c)
      | bracket :: around =>
        if closingOf bracket = c then return .sign [c] :: (← tokens fuel around rest)
        else throw (.mismatched c bracket)
    else if c = 92 then
      match rest with
      | [10] => return if around.isEmpty then [.stop .unexpectedEnd] else ending around
      | 10 :: rest => tokens fuel around rest
      | _ => return [.stop .afterBackslash]
    else if c < 32 || c = 127 then throw (.unprintable c)
    else
      match longSigns.find? fun s => Text.startsWith (c :: rest) s with
      | some s => return .sign s :: (← tokens fuel around ((c :: rest).drop s.length))
      | none => return .sign [c] :: (← tokens fuel around rest)

end ToolPolicy.Literal
