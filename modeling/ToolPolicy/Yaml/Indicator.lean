import ToolPolicy.Yaml.Property

/-!
# From a source to tokens

The next token of a document is found by its first code point. In a block, the column of a token
says which blocks end before it and whether a new one begins. What may be a key is remembered until
a colon follows, the line ends or too much text comes after it.

A token is handed on only when it is known whether a key begins with it. So a flaw that is found on
the way hides the tokens that still wait for an answer: `Lexer.ready` are those that do not wait.
-/

namespace ToolPolicy.Yaml

namespace Scan

/-! ## Tokens and keys -/

/-- Adds a token. -/
def emit (t : Token) : Scan Unit :=
  modify fun s => { s with tokens := t :: s.tokens, count := s.count + 1 }

/-- Adds a token that takes no room. -/
def emitHere (kind : Token.Kind) : Scan Unit := do
  let m ← mark
  emit ⟨kind, m, m⟩

/-- Adds a token in front of those from a number on. -/
def emitAt (number : Nat) (t : Token) : Scan Unit :=
  modify fun s =>
    { s with tokens := s.tokens.insertIdx (s.count - number) t, count := s.count + 1 }

/-- Adds an indicator of the given length. -/
def emitIndicator (kind : Token.Kind) (length : Nat := 1) : Scan Unit := do
  let start ← mark
  forward length
  emit ⟨kind, start, ← mark⟩

/-- The flaw of a key without a colon. -/
def failKey {α : Type} (k : PossibleKey) : Scan α :=
  fail (some (.scanning "a simple key")) (some k.mark) .missingColon

/-- How far from its beginning a key may end. -/
def keyLength : Nat := 1024

/-- Whether a possible key can still be one at a place. -/
def isAlive (place : Mark) (k : PossibleKey) : Bool :=
  k.mark.line == place.line && place.index - k.mark.index ≤ keyLength

/-- Forgets the keys that can be none any more. -/
def dropStaleKeys : Scan Unit := do
  let place ← mark
  match (← get).keys.find? fun k => !isAlive place k && k.isRequired with
  | some k => failKey k
  | none => modify fun s => { s with keys := s.keys.filter (isAlive place) }

/-- Forgets the possible key of this level. -/
def dropKey : Scan Unit := do
  let level := (← get).level
  match (← get).keys.find? fun k => k.level == level with
  | some k =>
    if k.isRequired then failKey k
    else modify fun s => { s with keys := s.keys.filter fun k => k.level != level }
  | none => return

/-- Remembers that the next token may begin a key. -/
def saveKey : Scan Unit := do
  let s ← get
  let isRequired := s.level == 0 && s.indent == s.cursor.mark.column
  if s.allowsKey then
    dropKey
    modify fun s =>
      { s with keys := s.keys ++ [⟨s.level, s.count, isRequired, s.cursor.mark⟩] }

/-! ## Indentation -/

/-- Ends the blocks that are further in than a column, the innermost first. -/
def endBlocks (column : Int) (m : Mark) : List Int → Lexer → Lexer
  | outer :: rest, s =>
    if column < s.indent then
      endBlocks column m rest { s with
        tokens := ⟨.blockEnd, m, m⟩ :: s.tokens, count := s.count + 1,
        indent := outer, indents := rest }
    else s
  | [], s => s

/-- Ends the blocks that are further in than a column, unless brackets are open. -/
def indentAt (column : Int) : Scan Unit :=
  modify fun s => if s.level = 0 then endBlocks column s.cursor.mark s.indents s else s

/-- Begins a block at a column, if that is further in. -/
def beginBlock (column : Nat) : Scan Bool := do
  let s ← get
  if s.indent < column then
    set { s with indents := s.indent :: s.indents, indent := column }
    return true
  else return false

/-! ## One token of each kind -/

/-- The end of the document. -/
def streamEnd : Scan Unit := do
  indentAt (-1)
  dropKey
  allowKey false
  modify fun s => { s with keys := [] }
  emitHere .streamEnd
  modify fun s => { s with isDone := true }

/-- A line of directions. -/
def directive : Scan Unit := do
  indentAt (-1)
  dropKey
  allowKey false
  emit (← Property.directive)

/-- A separator of documents. -/
def separator (kind : Token.Kind) : Scan Unit := do
  indentAt (-1)
  dropKey
  allowKey false
  emitIndicator kind 3

/-- An opening bracket. -/
def openBracket (kind : Token.Kind) : Scan Unit := do
  saveKey
  modify fun s => { s with level := s.level + 1 }
  allowKey true
  emitIndicator kind

/-- A closing bracket. -/
def closeBracket (kind : Token.Kind) : Scan Unit := do
  dropKey
  modify fun s => { s with level := s.level - 1 }
  allowKey false
  emitIndicator kind

/-- A comma. -/
def comma : Scan Unit := do
  allowKey true
  dropKey
  emitIndicator .flowEntry

/-- Begins a block here if this is further in than the others; what begins it
has to be allowed here. -/
def openBlock (kind : Token.Kind) (what : String) : Scan Unit := do
  if !(← inFlow) then
    if !(← get).allowsKey then fail none none (.notHere what)
    if ← beginBlock (← column) then emitHere kind

/-- The hyphen of an entry. -/
def hyphen : Scan Unit := do
  openBlock .blockSequenceStart "sequence entries"
  allowKey true
  dropKey
  emitIndicator .blockEntry

/-- The question mark of a key. -/
def questionMark : Scan Unit := do
  openBlock .blockMappingStart "mapping keys"
  allowKey (!(← inFlow))
  dropKey
  emitIndicator .key

/-- The colon of a value. -/
def colon : Scan Unit := do
  let s ← get
  match s.keys.find? fun k => k.level == s.level with
  | some k =>
    set { s with keys := s.keys.filter fun k => k.level != s.level }
    emitAt k.number ⟨.key, k.mark, k.mark⟩
    if !(← inFlow) then
      if ← beginBlock k.mark.column then emitAt k.number ⟨.blockMappingStart, k.mark, k.mark⟩
    allowKey false
  | none =>
    openBlock .blockMappingStart "mapping values"
    allowKey (!(← inFlow))
    dropKey
  emitIndicator .value

/-- A token that may begin a key and is followed by none. -/
def keyLike (read : Scan Token) : Scan Unit := do
  saveKey
  allowKey false
  emit (← read)

/-- A block scalar, which is no key. -/
def blockScalar (isFolded : Bool) : Scan Unit := do
  allowKey true
  dropKey
  emit (← Scalar.block isFolded)

/-! ## The next token -/

/-- Goes past a byte order mark at the beginning. -/
def skipOrderMark : Scan Unit := do
  if (← mark).index = 0 then
    if (← peek) == 0xFEFF then forward

/-- Goes past spaces, comments and line ends. -/
def skipBlanks : Nat → Scan Unit
  | 0 => return
  | fuel + 1 => do
    skipSpaces
    skipComment
    if (← takeBreak) != [] then
      if !(← inFlow) then allowKey true
      skipBlanks fuel

/-- Whether a hyphen, a question mark or a colon that is ahead is an indicator: the last two always
are within brackets, and each of them if white space follows. -/
def isIndicator (c : CodePoint) : Scan Bool := do
  if (c == 63 || c == 58) && (← inFlow) then return true
  else if c == 45 || c == 63 || c == 58 then return isBlankOrEnd (← peek 1)
  else return false

/-- Whether a plain scalar can begin with a code point that is ahead. -/
def beginsPlain (c : CodePoint) : Scan Bool := do
  if isBlankOrEnd c || isOneOf "-?:,[]\x7b\x7d#&*!|>'\"%@\x60" c then
    let d ← peek 1
    return !isBlankOrEnd d && (c == 45 || (!(← inFlow) && (c == 63 || c == 58)))
  else return true

/-- The token that begins with a code point, which is none of those that
depend on more than that. -/
def ofCodePoint (c : CodePoint) : Scan Unit := do
  let flow ← inFlow
  if c == 91 then openBracket .flowSequenceStart
  else if c == 123 then openBracket .flowMappingStart
  else if c == 93 then closeBracket .flowSequenceEnd
  else if c == 125 then closeBracket .flowMappingEnd
  else if c == 44 then comma
  else if ← isIndicator c then
    if c == 45 then hyphen
    else if c == 63 then questionMark
    else colon
  else if c == 42 || c == 38 then keyLike Property.anchor
  else if c == 33 then keyLike Property.tag
  else if c == 124 && !flow then blockScalar false
  else if c == 62 && !flow then blockScalar true
  else if c == 39 || c == 34 then keyLike Scalar.quoted
  else if ← beginsPlain c then keyLike Scalar.plain
  else fail (some (.scanning "for the next token")) none (.noToken c)

/-- The kind of separator that is ahead, if there is one at the beginning of a line. -/
def separatorAhead? (c : CodePoint) : Scan (Option Token.Kind) := do
  if (c == 45 || c == 46) && (← column) = 0 then
    if ← isSeparatorAhead then return some (if c == 45 then .documentStart else .documentEnd)
  return none

/-- Finds the next token, with the ends and beginnings of blocks in front of it. -/
def next : Scan Unit := do
  skipOrderMark
  skipBlanks (← fuel)
  dropStaleKeys
  indentAt (← column)
  let c ← peek
  if c == 0 then streamEnd
  else if c == 37 && (← column) = 0 then directive
  else match ← separatorAhead? c with
    | some kind => separator kind
    | none => ofCodePoint c
  if !(← get).isDone then dropStaleKeys

end Scan

/-! ## All tokens -/

namespace Lexer

/-- The tokens that do not wait for a colon. -/
def ready (s : Lexer) : List Token :=
  let waiting := (s.keys.map PossibleKey.number).foldl min s.count
  s.tokens.reverse.take waiting

/-- The tokens of the rest of a document. -/
def run : Nat → Lexer → Tokens
  | 0, s => ⟨s.ready, none⟩
  | fuel + 1, s =>
    if s.isDone then ⟨s.tokens.reverse, none⟩
    else match Scan.next.run s with
      | .error f => ⟨s.ready, some f⟩
      | .ok (_, s) => run fuel s

/-- The state before a source. -/
def start (source : Source) : Lexer where
  cursor := { ahead := source.text, failure := source.failure }

end Lexer

/-- The tokens of a source. -/
def Source.tokens (source : Source) : Tokens :=
  Lexer.run (source.text.length + 2) (.start source)

end ToolPolicy.Yaml
