import ToolPolicy.Yaml.Source
import ToolPolicy.Yaml.Token

/-!
# Reading a document code point by code point

The state of reading is a cursor in the source, the blocks and brackets that are open, and the
tokens so far. A scalar, an alias or a bracket may turn out to be a key when a colon follows it on
the same line; until that is known its place in the list of tokens is remembered.

Main statement: `advance_append` (going on in steps comes to the same place).
-/

namespace ToolPolicy.Yaml

/-! ## Classes of code points -/

/-- What ends a line. -/
def isBreak (c : CodePoint) : Bool := c == 10 || c == 13 || c == 0x85 || c == 0x2028 || c == 0x2029

/-- What ends a line, or the document. -/
def isEnd (c : CodePoint) : Bool := c == 0 || isBreak c

/-- A space, or what ends a line. -/
def isSpaceOrEnd (c : CodePoint) : Bool := c == 32 || isEnd c

/-- A space, a tab, or what ends a line. -/
def isBlankOrEnd (c : CodePoint) : Bool := c == 32 || c == 9 || isEnd c

/-- What names are made of. -/
def isNamePart (c : CodePoint) : Bool :=
  CodePoint.isAsciiDigit c || CodePoint.isAsciiLetter c || c == 45 || c == 95

/-- Whether a code point is one of a literal. -/
def isOneOf (s : String) (c : CodePoint) : Bool := (Text.ofString s).contains c

/-! ## The cursor -/

/-- A place in a source: what is ahead, what comes after that, and the mark. -/
structure Cursor where
  ahead : Text
  failure : Option Failure := none
  mark : Mark := {}
  deriving Repr

/-- The mark after a code point. -/
def Mark.after (m : Mark) (c : CodePoint) : Mark :=
  if c == 10 || c == 0x85 || c == 0x2028 || c == 0x2029 then ⟨m.index + 1, m.line + 1, 0⟩
  else if c == 0xFEFF then { m with index := m.index + 1 }
  else { m with index := m.index + 1, column := m.column + 1 }

namespace Cursor

/-- The code point some places ahead; after the end there is a zero. -/
def peek (s : Cursor) (k : Nat) : Except Failure CodePoint :=
  match s.ahead[k]? with
  | some c => .ok c
  | none => match s.failure with
    | some f => .error f
    | none => .ok 0

/-- The next code points, or fewer at the end. -/
def peekText (s : Cursor) (count : Nat) : Except Failure Text :=
  match s.failure with
  | some f => if s.ahead.length < count then .error f else .ok (s.ahead.take count)
  | none => .ok (s.ahead.take count)

/-- The cursor some places further on. -/
def advance (s : Cursor) (count : Nat) : Cursor :=
  { s with ahead := s.ahead.drop count, mark := (s.ahead.take count).foldl Mark.after s.mark }

/-- Going on in steps comes to the same place. -/
theorem advance_append (s : Cursor) (a b : Nat) : (s.advance a).advance b = s.advance (a + b) := by
  simp [advance, List.drop_drop, List.take_add]

end Cursor

/-! ## The state of reading -/

/-- A token that may turn out to begin a key. -/
structure PossibleKey where
  /-- How many brackets are open around it. -/
  level : Nat
  /-- How many tokens come before it. -/
  number : Nat
  /-- Whether there is nothing else that it can be. -/
  isRequired : Bool
  mark : Mark
  deriving DecidableEq, Repr

/-- The state of reading. -/
structure Lexer where
  cursor : Cursor
  /-- The tokens so far, the last one first, and how many there are. -/
  tokens : List Token := []
  count : Nat := 0
  isDone : Bool := false
  /-- How many brackets are open. -/
  level : Nat := 0
  /-- The column of the innermost block, and those of the blocks around it. -/
  indent : Int := -1
  indents : List Int := []
  /-- Whether a key may begin here. -/
  allowsKey : Bool := true
  keys : List PossibleKey := []
  deriving Repr

/-- A step of reading. -/
abbrev Scan := StateT Lexer (Except Failure)

namespace Scan

/-- The code point some places ahead. -/
def peek (k : Nat := 0) : Scan CodePoint := do
  liftM ((← get).cursor.peek k)

/-- The next code points. -/
def peekText (count : Nat) : Scan Text := do
  liftM ((← get).cursor.peekText count)

/-- Goes on by some places; the code point after them has to be there. -/
def forward (count : Nat := 1) : Scan Unit := do
  let _ ← peek count
  modify fun s => { s with cursor := s.cursor.advance count }

/-- Where reading has come to. -/
def mark : Scan Mark := return (← get).cursor.mark

/-- The column that reading has come to. -/
def column : Scan Nat := return (← mark).column

/-- A bound for the number of steps that go on from here. -/
def fuel : Scan Nat := return (← get).cursor.ahead.length + 1

/-- Whether brackets are open. -/
def inFlow : Scan Bool := return (← get).level != 0

/-- Says whether a key may begin here. -/
def allowKey (allowed : Bool) : Scan Unit := modify fun s => { s with allowsKey := allowed }

/-- Stops because of a flaw at a place. -/
def failAt {α : Type} (activity : Option Activity) (start : Option Mark) (cause : Flaw.Cause)
    (place : Mark) : Scan α :=
  throw (.flaw ⟨cause, place, activity, start⟩)

/-- Stops because of a flaw where reading has come to. -/
def fail {α : Type} (activity : Option Activity) (start : Option Mark) (cause : Flaw.Cause) :
    Scan α := do
  failAt activity start cause (← mark)

/-- The code points of a class that are ahead, without going on. -/
def spanAhead (p : CodePoint → Bool) : Scan Text := do
  let s := (← get).cursor
  let run := s.ahead.takeWhile p
  let _ ← peek run.length
  return run

/-- Takes the code points of a class that are ahead. -/
def takeWhile (p : CodePoint → Bool) : Scan Text := do
  let run ← spanAhead p
  forward run.length
  return run

/-- Goes past spaces. -/
def skipSpaces : Scan Unit := do
  let _ ← takeWhile (· == 32)

/-- Goes past a comment, if there is one, to the end of its line. -/
def skipComment : Scan Unit := do
  if (← peek) == 35 then
    let _ ← takeWhile fun c => !isEnd c

/-- Takes a line break, if there is one; all but two kinds of it count as a line feed. -/
def takeBreak : Scan Text := do
  let c ← peek
  if c == 10 || c == 13 || c == 0x85 then
    forward
    return [10]
  else if c == 0x2028 || c == 0x2029 then
    forward
    return [c]
  else return []

/-- Whether three hyphens or dots that stand for themselves are ahead. -/
def isSeparatorAhead : Scan Bool := do
  let start ← peekText 3
  if start == [45, 45, 45] || start == [46, 46, 46] then return isBlankOrEnd (← peek 3)
  else return false

end Scan

end ToolPolicy.Yaml
