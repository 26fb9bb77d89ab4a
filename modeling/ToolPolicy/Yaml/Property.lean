import ToolPolicy.Text.Number
import ToolPolicy.Yaml.Scalar

/-!
# Names, tags and directives

What may stand in front of a node or of a document: anchors and aliases with their names, tags, and
lines of directions. A tag is written out between angle brackets or begins with a handle; percent
signs in it announce bytes.
-/

namespace ToolPolicy.Yaml.Property

/-- The place of an activity that reads what has the given name. -/
def scanning (what : String) : Option Activity := some (.scanning what)

/-- What a tag or the direction about one is called. -/
inductive Owner where
  | tag
  | directive
  deriving DecidableEq, Repr

/-- The words for reading something for its owner. -/
def Owner.scanning : Owner → Option Activity
  | tag => some (.scanning "a tag")
  | directive => some (.scanning "a directive")

/-- The words for reading the address of a tag for its owner. -/
def Owner.parsing : Owner → Option Activity
  | tag => some (.parsing "a tag")
  | directive => some (.parsing "a directive")

/-! ## Names -/

/-- A name, which may be followed only by a code point of a class. -/
def name (activity : Option Activity) (start : Mark) (mayFollow : CodePoint → Bool) :
    Scan Text := do
  let run ← Scan.spanAhead isNamePart
  if run.isEmpty then
    Scan.fail activity (some start) (.expected "alphabetic or numeric character" (← Scan.peek))
  Scan.forward run.length
  let c ← Scan.peek
  if mayFollow c then return run
  else Scan.fail activity (some start) (.expected "alphabetic or numeric character" c)

/-- What may follow the name of an anchor. -/
def mayFollowAnchor (c : CodePoint) : Bool := isBlankOrEnd c || isOneOf "?:,]\x7d%@\x60" c

/-- An anchor, or an alias that refers to one. -/
def anchor : Scan Token := do
  let start ← Scan.mark
  let isAlias := (← Scan.peek) == 42
  Scan.forward
  let text ← name (scanning (if isAlias then "an alias" else "an anchor")) start mayFollowAnchor
  return ⟨if isAlias then .reference text else .anchor text, start, ← Scan.mark⟩

/-! ## Tags -/

/-- A handle: an exclamation mark, or a name between two of them. -/
def handle (owner : Owner) (start : Mark) : Scan Text := do
  let c ← Scan.peek
  if c != 33 then Scan.fail owner.scanning (some start) (.expected "'!'" c)
  if (← Scan.peek 1) == 32 then
    Scan.forward
    return [33]
  let run := ((← get).cursor.ahead.drop 1).takeWhile isNamePart
  let d ← Scan.peek (run.length + 1)
  if d == 33 then
    Scan.forward (run.length + 2)
    return [33] ++ run ++ [33]
  else
    Scan.forward (run.length + 1)
    Scan.fail owner.scanning (some start) (.expected "'!'" d)

/-- What the address of a tag is made of. -/
def isAddressPart (c : CodePoint) : Bool :=
  CodePoint.isAsciiDigit c || CodePoint.isAsciiLetter c || isOneOf "-;/?:@&=+$,_.!~*'()[]%" c

/-- Bytes that are written with a percent sign and two digits each. -/
def escapedBytes (owner : Owner) (start : Mark) : Nat → Scan (List UInt8)
  | 0 => return []
  | fuel + 1 => do
    if (← Scan.peek) != 37 then return []
    Scan.forward
    let a ← Scan.peek
    if !CodePoint.isHexDigit a then
      Scan.fail owner.scanning (some start)
        (.expected "URI escape sequence of 2 hexadecimal numbers" a)
    let b ← Scan.peek 1
    if !CodePoint.isHexDigit b then
      Scan.fail owner.scanning (some start)
        (.expected "URI escape sequence of 2 hexadecimal numbers" b)
    Scan.forward 2
    return (Text.toNatBase 16 [a, b]).toUInt8 :: (← escapedBytes owner start fuel)

/-- The text that escaped bytes stand for. -/
def escapedText (owner : Owner) (start : Mark) : Scan Text := do
  let place ← Scan.mark
  let bytes ← escapedBytes owner start (← Scan.fuel)
  match Utf8.decode bytes with
  | .ok t => return t
  | .error flaw => Scan.failAt owner.scanning (some start) (.escapedBytes flaw) place

/-- The pieces of an address. -/
def addressPieces (owner : Owner) (start : Mark) : Nat → Text → Scan Text
  | 0, text => return text
  | fuel + 1, text => do
    let run ← Scan.takeWhile fun c => isAddressPart c && c != 37
    let text := text ++ run
    if (← Scan.peek) == 37 then addressPieces owner start fuel (text ++ (← escapedText owner start))
    else return text

/-- The address of a tag, or what follows its handle. -/
def address (owner : Owner) (start : Mark) : Scan Text := do
  let c ← Scan.peek
  if isAddressPart c then addressPieces owner start (← Scan.fuel) []
  else Scan.fail owner.parsing (some start) (.expected "URI" c)

/-- A tag as it is written. -/
def tagName (start : Mark) : Scan TagName := do
  let c ← Scan.peek 1
  if c == 60 then
    Scan.forward 2
    let suffix ← address .tag start
    let d ← Scan.peek
    if d != 62 then Scan.fail (some (.parsing "a tag")) (some start) (.expected "'>'" d)
    Scan.forward
    return ⟨none, suffix⟩
  else if isBlankOrEnd c then
    Scan.forward
    return ⟨none, [33]⟩
  else
    let word := ((← get).cursor.ahead.drop 1).takeWhile fun c => !(isSpaceOrEnd c || c == 33)
    if (← Scan.peek (word.length + 1)) == 33 then
      let h ← handle .tag start
      return ⟨some h, ← address .tag start⟩
    else
      Scan.forward
      return ⟨some [33], ← address .tag start⟩

/-- A tag. -/
def tag : Scan Token := do
  let start ← Scan.mark
  let written ← tagName start
  let c ← Scan.peek
  if isSpaceOrEnd c then return ⟨.tag written, start, ← Scan.mark⟩
  else Scan.fail (some (.scanning "a tag")) (some start) (.expected "' '" c)

/-! ## Directives -/

/-- The number in the version of a document. -/
def versionNumber (start : Mark) : Scan Nat := do
  let c ← Scan.peek
  if !CodePoint.isAsciiDigit c then
    Scan.fail (some (.scanning "a directive")) (some start) (.expected "a digit" c)
  let digits ← Scan.spanAhead CodePoint.isAsciiDigit
  match Text.readInteger 10 digits with
  | .ok n =>
    Scan.forward digits.length
    return n.toNat
  | .error f => throw (.fault f)

/-- The version of a document. -/
def version (start : Mark) : Scan Directive := do
  Scan.skipSpaces
  let major ← versionNumber start
  let c ← Scan.peek
  if c != 46 then
    Scan.fail (some (.scanning "a directive")) (some start) (.expected "a digit or '.'" c)
  Scan.forward
  let minor ← versionNumber start
  let c ← Scan.peek
  if isSpaceOrEnd c then return .version major minor
  else Scan.fail (some (.scanning "a directive")) (some start) (.expected "a digit or ' '" c)

/-- What a handle stands for. -/
def tagDirective (start : Mark) : Scan Directive := do
  Scan.skipSpaces
  let h ← handle .directive start
  let c ← Scan.peek
  if c != 32 then
    Scan.fail (some (.scanning "a directive")) (some start) (.expected "' '" c)
  Scan.skipSpaces
  let text ← address .directive start
  let c ← Scan.peek
  if isSpaceOrEnd c then return .tag h text
  else Scan.fail (some (.scanning "a directive")) (some start) (.expected "' '" c)

/-- The name of the direction about the version. -/
def versionWord : Text := "YAML"

/-- The name of the direction about a handle. -/
def tagWord : Text := "TAG"

/-- A line of directions. -/
def directive : Scan Token := do
  let start ← Scan.mark
  Scan.forward
  let word ← name (some (.scanning "a directive")) start isSpaceOrEnd
  let d ←
    if word == versionWord then version start
    else if word == tagWord then tagDirective start
    else pure .other
  let stop ← Scan.mark
  if d == .other then
    let _ ← Scan.takeWhile fun c => !isEnd c
  Scalar.ignoredLine (.scanning "a directive") start
  return ⟨.directive d, start, stop⟩

end ToolPolicy.Yaml.Property
