import ToolPolicy.Yaml.Lexer

/-!
# Scalars

The three ways to write a scalar: plain, between quotes, and as a block that is set off by its
indentation. Line breaks within plain and quoted scalars are folded: one becomes a space, and of
several the first is dropped. A block keeps its line breaks or folds them, as its header says, and
its header also says what becomes of those at its end.
-/

namespace ToolPolicy.Yaml.Scalar

/-! ## Plain scalars -/

/-- Whether a plain scalar stops before a code point with the given text after it. -/
def stopsPlain (inFlow : Bool) (c : CodePoint) (rest : Text) : Bool :=
  isBlankOrEnd c || (inFlow && isOneOf ",?[]\x7b\x7d" c)
    || (c == 58 && match rest with
      | [] => true
      | d :: _ => isBlankOrEnd d || (inFlow && isOneOf ",[]\x7b\x7d" d))

/-- The piece of a plain scalar at the beginning of a text. -/
def plainRun (inFlow : Bool) : Text → Text
  | [] => []
  | c :: rest => if stopsPlain inFlow c rest then [] else c :: plainRun inFlow rest

/-- The piece of a plain scalar that is ahead; also looks at what is behind a colon after it. -/
def takePlainRun (inFlow : Bool) : Scan Text := do
  let run := plainRun inFlow (← get).cursor.ahead
  if (← Scan.peek run.length) == 58 then
    let _ ← Scan.peek (run.length + 1)
  return run

/-- The line breaks and spaces up to the next text; nothing if a separator of
documents comes first. -/
def plainBreaks : Nat → List Text → Scan (Option (List Text))
  | 0, breaks => return some breaks
  | fuel + 1, breaks => do
    let c ← Scan.peek
    if c == 32 then
      Scan.forward
      plainBreaks fuel breaks
    else if isBreak c then
      let b ← Scan.takeBreak
      if ← Scan.isSeparatorAhead then return none
      plainBreaks fuel (breaks ++ [b])
    else return some breaks

/-- What a line break and those after it become. -/
def fold (first : Text) (breaks : List Text) : Text :=
  if first != [10] then first ++ breaks.flatten
  else if breaks.isEmpty then [32]
  else breaks.flatten

/-- What stands between two pieces of a plain scalar; nothing if the scalar ends here. -/
def plainSpaces : Scan Text := do
  let spaces ← Scan.takeWhile (· == 32)
  if isBreak (← Scan.peek) then
    let first ← Scan.takeBreak
    Scan.allowKey true
    if ← Scan.isSeparatorAhead then return []
    match ← plainBreaks (← Scan.fuel) [] with
    | some breaks => return fold first breaks
    | none => return []
  else return spaces

/-- The pieces of a plain scalar: what is there so far, where that ends, and what comes
before the next piece. -/
def plainPieces (indent : Int) : Nat → Text → Mark → Text → Scan (Text × Mark)
  | 0, text, stop, _ => return (text, stop)
  | fuel + 1, text, stop, spaces => do
    if (← Scan.peek) == 35 then return (text, stop)
    let inFlow ← Scan.inFlow
    let run ← takePlainRun inFlow
    if run.isEmpty then return (text, stop)
    Scan.allowKey false
    Scan.forward run.length
    let text := text ++ spaces ++ run
    let stop ← Scan.mark
    let spaces ← plainSpaces
    if spaces.isEmpty || (← Scan.peek) == 35 || (!inFlow && ((← Scan.column) : Int) < indent) then
      return (text, stop)
    plainPieces indent fuel text stop spaces

/-- A plain scalar. -/
def plain : Scan Token := do
  let start ← Scan.mark
  let indent := (← get).indent + 1
  let (text, stop) ← plainPieces indent (← Scan.fuel) [] start []
  return ⟨.scalar text true, start, stop⟩

/-! ## Quoted scalars -/

/-- What a letter after a backslash stands for. -/
def escapeFor? (c : CodePoint) : Option CodePoint :=
  (escapes.find? fun e => e.1 == c).map (·.2)
where
  /-- The letters and what they stand for. -/
  escapes : List (CodePoint × CodePoint) :=
    [(48, 0), (97, 7), (98, 8), (116, 9), (9, 9), (110, 10), (118, 11), (102, 12),
     (114, 13), (101, 27),
      (32, 32), (34, 34), (92, 92), (47, 47), (78, 0x85), (95, 0xA0), (76, 0x2028), (80, 0x2029)]

/-- The number of digits after a letter that announces a code point. -/
def digitCount? (c : CodePoint) : Option Nat :=
  if c = 120 then some 2 else if c = 117 then some 4 else if c = 85 then some 8 else none

/-- The code point of a number. -/
def codePointOf (n : Nat) : Except Failure CodePoint :=
  if n ≤ 0x10FFFF then .ok n
  else if n < 0x80000000 then .error (.fault .codePointOutOfRange)
  else .error (.fault .codePointTooLarge)

/-- Checks that hexadecimal digits are ahead. -/
def expectHexDigits (start : Mark) (count : Nat) : Nat → Scan Unit
  | 0 => return
  | left + 1 => do
    let c ← Scan.peek (count - (left + 1))
    if CodePoint.isHexDigit c then expectHexDigits start count left
    else
      Scan.fail (some (.scanning "a double-quoted scalar")) (some start)
        (.expectedHexDigits count c)

/-- The line breaks that follow one within quotes. -/
def quotedBreaks (start : Mark) : Nat → List Text → Scan (List Text)
  | 0, breaks => return breaks
  | fuel + 1, breaks => do
    if ← Scan.isSeparatorAhead then
      Scan.fail (some (.scanning "a quoted scalar")) (some start) .documentSeparator
    let _ ← Scan.takeWhile fun c => c == 32 || c == 9
    if isBreak (← Scan.peek) then
      let b ← Scan.takeBreak
      quotedBreaks start fuel (breaks ++ [b])
    else return breaks

/-- What a backslash and the text after it stand for. -/
def escape (start : Mark) : Scan Text := do
  Scan.forward
  let c ← Scan.peek
  match escapeFor? c, digitCount? c with
  | some d, _ =>
    Scan.forward
    return [d]
  | none, some count =>
    Scan.forward
    expectHexDigits start count count
    let digits ← Scan.peekText count
    let d ← liftM (codePointOf (Text.toNatBase 16 digits))
    Scan.forward count
    return [d]
  | none, none =>
    if isBreak c then
      let _ ← Scan.takeBreak
      return (← quotedBreaks start (← Scan.fuel) []).flatten
    else
      Scan.fail (some (.scanning "a double-quoted scalar")) (some start) (.unknownEscape c)

/-- Whether text between quotes goes on as it is with a code point. -/
def isQuotedRun (c : CodePoint) : Bool := !(isOneOf "'\"\\" c || isBlankOrEnd c)

/-- Whether a single quote that is ahead is written twice. -/
def isTwice (isDouble : Bool) (c : CodePoint) : Scan Bool := do
  if !isDouble && c == 39 then return (← Scan.peek 1) == 39 else return false

/-- Text between quotes up to white space or the closing quote. -/
def quotedText (isDouble : Bool) (start : Mark) : Nat → Text → Scan Text
  | 0, text => return text
  | fuel + 1, text => do
    let run ← Scan.takeWhile isQuotedRun
    let text := text ++ run
    let c ← Scan.peek
    if ← isTwice isDouble c then
      Scan.forward 2
      quotedText isDouble start fuel (text ++ [39])
    else if (isDouble && c == 39) || (!isDouble && (c == 34 || c == 92)) then
      Scan.forward
      quotedText isDouble start fuel (text ++ [c])
    else if isDouble && c == 92 then
      quotedText isDouble start fuel (text ++ (← escape start))
    else return text

/-- White space between quotes. -/
def quotedSpaces (start : Mark) : Scan Text := do
  let spaces ← Scan.takeWhile fun c => c == 32 || c == 9
  let c ← Scan.peek
  if c == 0 then Scan.fail (some (.scanning "a quoted scalar")) (some start) .endOfStream
  else if isBreak c then
    let first ← Scan.takeBreak
    return fold first (← quotedBreaks start (← Scan.fuel) [])
  else return spaces

/-- The text between quotes, after what is there so far. -/
def quotedPieces (quote : CodePoint) (start : Mark) : Nat → Text → Scan Text
  | 0, text => return text
  | fuel + 1, text => do
    if (← Scan.peek) == quote then return text
    let spaces ← quotedSpaces start
    let more ← quotedText (quote == 34) start (← Scan.fuel) []
    quotedPieces quote start fuel (text ++ spaces ++ more)

/-- A scalar between quotes. -/
def quoted : Scan Token := do
  let start ← Scan.mark
  let quote ← Scan.peek
  Scan.forward
  let first ← quotedText (quote == 34) start (← Scan.fuel) []
  let text ← quotedPieces quote start (← Scan.fuel) first
  Scan.forward
  return ⟨.scalar text false, start, ← Scan.mark⟩

/-! ## Block scalars -/

/-- What becomes of the line breaks at the end of a block. -/
inductive Chomping where
  | strip
  | clip
  | keep
  deriving DecidableEq, Repr

/-- The end of a block: its last line break, and those after it. -/
def Chomping.tail (c : Chomping) (last : Text) (breaks : List Text) : Text :=
  match c with
  | strip => []
  | clip => last
  | keep => last ++ breaks.flatten

/-- The indicator of chomping that is ahead, if there is one. -/
def takeChomping : Scan (Option Chomping) := do
  let c ← Scan.peek
  if c == 43 then
    Scan.forward
    return some .keep
  else if c == 45 then
    Scan.forward
    return some .strip
  else return none

/-- The indicator of indentation that is ahead, if there is one. -/
def takeIndentation (start : Mark) : Scan (Option Nat) := do
  let c ← Scan.peek
  if CodePoint.isAsciiDigit c then
    if c == 48 then Scan.fail (some (.scanning "a block scalar")) (some start) .zeroIndentation
    Scan.forward
    return some (c - 48)
  else return none

/-- The indicators in the header of a block, in either order. -/
def indicators (start : Mark) : Scan (Chomping × Option Nat) := do
  let result ← match ← takeChomping with
    | some chomping => pure (chomping, ← takeIndentation start)
    | none =>
      match ← takeIndentation start with
      | some n => pure ((← takeChomping).getD .clip, some n)
      | none => pure (.clip, none)
  let c ← Scan.peek
  if isSpaceOrEnd c then return result
  else
    Scan.fail (some (.scanning "a block scalar")) (some start)
      (.expected "chomping or indentation indicators" c)

/-- The rest of a line that may hold nothing but a comment. -/
def ignoredLine (activity : Activity) (start : Mark) : Scan Unit := do
  Scan.skipSpaces
  Scan.skipComment
  let c ← Scan.peek
  if isEnd c then
    let _ ← Scan.takeBreak
  else Scan.fail (some activity) (some start) (.expected "a comment or a line break" c)

/-- The empty lines at the beginning of a block, the largest indentation in
them, and where they end. -/
def leadingLines : Nat → List Text → Nat → Mark → Scan (List Text × Nat × Mark)
  | 0, breaks, largest, stop => return (breaks, largest, stop)
  | fuel + 1, breaks, largest, stop => do
    let c ← Scan.peek
    if isBreak c then
      let b ← Scan.takeBreak
      leadingLines fuel (breaks ++ [b]) largest (← Scan.mark)
    else if c == 32 then
      Scan.forward
      leadingLines fuel breaks (max largest (← Scan.column)) stop
    else return (breaks, largest, stop)

/-- Goes past the spaces in front of a column. -/
def skipIndent (indent : Nat) : Nat → Scan Unit
  | 0 => return
  | fuel + 1 => do
    if (← Scan.column) < indent && (← Scan.peek) == 32 then
      Scan.forward
      skipIndent indent fuel

/-- The empty lines before the next line of a block, and where they end. -/
def blockBreaks (indent : Nat) : Nat → List Text → Mark → Scan (List Text × Mark)
  | 0, breaks, stop => return (breaks, stop)
  | fuel + 1, breaks, stop => do
    skipIndent indent (← Scan.fuel)
    if isBreak (← Scan.peek) then
      let b ← Scan.takeBreak
      blockBreaks indent fuel (breaks ++ [b]) (← Scan.mark)
    else return (breaks, stop)

/-- Whether a line of a block is ahead. -/
def isLineAhead (indent : Nat) : Scan Bool := do
  if (← Scan.column) == indent then return (← Scan.peek) != 0
  else return false

/-- The lines of a block: the text so far, the line break before the empty lines that come next,
these, and where they end. -/
def blockLines (isFolded : Bool) (indent : Nat) :
    Nat → Text → Text → List Text → Mark → Scan (Text × Text × List Text × Mark)
  | 0, text, last, breaks, stop => return (text, last, breaks, stop)
  | fuel + 1, text, last, breaks, stop => do
    if ← isLineAhead indent then
      let text := text ++ breaks.flatten
      let c ← Scan.peek
      let isText := !(c == 32 || c == 9)
      let line ← Scan.takeWhile fun c => !isEnd c
      let text := text ++ line
      let last ← Scan.takeBreak
      let (breaks, stop) ← blockBreaks indent (← Scan.fuel) [] (← Scan.mark)
      if ← isLineAhead indent then
        let d ← Scan.peek
        let between :=
          if isFolded && last == [10] && isText && !(d == 32 || d == 9) then
            (if breaks.isEmpty then [32] else [])
          else last
        blockLines isFolded indent fuel (text ++ between) last breaks stop
      else return (text, last, breaks, stop)
    else return (text, last, breaks, stop)

/-- A block scalar. -/
def block (isFolded : Bool) : Scan Token := do
  let start ← Scan.mark
  Scan.forward
  let (chomping, increment) ← indicators start
  ignoredLine (.scanning "a block scalar") start
  let least := max 1 ((← get).indent + 1).toNat
  let (breaks, indent, stop) ← match increment with
    | none => do
      let (breaks, largest, stop) ← leadingLines (← Scan.fuel) [] 0 (← Scan.mark)
      pure (breaks, max least largest, stop)
    | some n => do
      let indent := least + n - 1
      let (breaks, stop) ← blockBreaks indent (← Scan.fuel) [] (← Scan.mark)
      pure (breaks, indent, stop)
  let (text, last, breaks, stop) ← blockLines isFolded indent (← Scan.fuel) [] [] breaks stop
  return ⟨.scalar (text ++ chomping.tail last breaks) false, start, stop⟩

end ToolPolicy.Yaml.Scalar
