import ToolPolicy.Regex.Flaw
import ToolPolicy.Regex.Syntax
import ToolPolicy.Text.CharacterName

/-!
# Tokens of a pattern

A pattern is read token by token: a token is one code point, or a backslash with the code point
after it. The reader always looks one token ahead, so a backslash at the very end is noticed as soon
as the token before it is taken.
-/

namespace ToolPolicy.Regex

/-- The least and the greatest number of code points that a part can match. -/
structure Width where
  least : Nat
  most : Nat
  deriving DecidableEq, Repr, Inhabited

/-- A token of a pattern. -/
inductive Token where
  | plain (c : CodePoint)
  | escape (c : CodePoint)
  deriving DecidableEq, Repr

namespace Token

/-- The token as it is written. -/
def text : Token → Text
  | plain c => [c]
  | escape c => [92, c]

/-- How many code points a token has. -/
def length : Token → Nat
  | plain _ => 1
  | escape _ => 2

end Token

/-- The state of reading a pattern. -/
structure Reader where
  /-- What is left, from the next token on. -/
  rest : Text
  /-- The position of the next token. -/
  position : Nat := 0
  /-- Options for the whole pattern. -/
  flags : Flags := {}
  /-- Names of groups, with their numbers. -/
  names : List (Text × Nat) := []
  /-- Widths of the groups so far; an open group has none yet. -/
  widths : List (Option Width) := []
  /-- How many groups there were before the outermost lookbehind that is being read. -/
  lookbehind : Option Nat := none
  /-- Numbered conditions, each with the position of its first use. -/
  conditions : List (Nat × Nat) := []

/-- Reading: a result and the new state, or a failure. -/
abbrev Reading (α : Type) := StateT Reader (Except Failure) α

namespace Reader

/-- The next token, if any. -/
def next? (s : Reader) : Option Token :=
  match s.rest with
  | [] => none
  | [c] => some (.plain c)
  | c :: d :: _ => if c = 92 then some (.escape d) else some (.plain c)

/-- The number that the next group will get. -/
def groupCount (s : Reader) : Nat := s.widths.length + 1

/-- Whether a group has been closed. -/
def isClosed (s : Reader) (index : Nat) : Bool :=
  0 < index && ((s.widths[index - 1]?).join).isSome

/-- The width of a closed group. -/
def widthOf (s : Reader) (index : Nat) : Width :=
  if index = 0 then ⟨0, 0⟩ else ((s.widths[index - 1]?).join).getD ⟨0, 0⟩

end Reader

namespace Reading

/-- Fails with a flaw some code points before the next token. -/
def flaw {α : Type} (cause : Flaw.Cause) (back : Nat := 0) : Reading α := fun s =>
  .error (.flaw ⟨cause, some (s.position - back)⟩)

/-- Fails with a fault. -/
def fault {α : Type} (f : Fault) : Reading α := fun _ => .error (.fault f)

/-- The next token, left where it is. -/
def peek : Reading (Option Token) := fun s => .ok (s.next?, s)

/-- Checks that the token just reached is whole. -/
def checkNext : Reading Unit := fun s =>
  if s.rest = [92] then .error (.flaw ⟨.trailingBackslash, some s.position⟩) else .ok ((), s)

/-- Takes the next token. -/
def take : Reading (Option Token) := fun s =>
  match s.next? with
  | none => .ok (none, s)
  | some t =>
    (checkNext { s with
      rest := s.rest.drop t.length
      position := s.position + t.length }).map fun (_, s') => (some t, s')

/-- Takes the next token if it is the given code point. -/
def accept (c : CodePoint) : Reading Bool := do
  if (← peek) = some (.plain c) then
    let _ ← take
    return true
  else return false

/-- Goes back to an earlier place. -/
def backTo (place : Reader) : Reading Unit := fun s =>
  checkNext { s with rest := place.rest, position := place.position }

/-- Takes up to a number of plain tokens of a class. -/
def takeSome (p : CodePoint → Bool) : Nat → Reading Text
  | 0 => return []
  | n + 1 => do
    match ← peek with
    | some (.plain c) =>
      if p c then
        let _ ← take
        return c :: (← takeSome p n)
      else return []
    | _ => return []

/-- Takes all plain tokens of a class from here. -/
def takeAll (p : CodePoint → Bool) : Reading Text := do
  takeSome p (← get).rest.length

/-- Takes a name up to its terminator; the terminator is taken too. -/
def takeName (terminator : CodePoint) (what : Text) : Reading Text := do
  let rec go : Nat → Text → Reading Text
    | 0, _ => flaw (.missing what)
    | n + 1, name => do
      match ← take with
      | none =>
        if name.isEmpty then flaw (.missing what)
        else flaw (.unterminatedName terminator) name.length
      | some t =>
        if t = .plain terminator then
          if name.isEmpty then flaw (.missing what) 1 else return name
        else go n (name ++ t.text)
  go ((← get).rest.length + 1) []

/-- Whether a text may name a group. -/
def isGroupName : Text → Bool
  | [] => false
  | c :: rest => CodePoint.isNameStart c && rest.all CodePoint.isNameContinue

/-- Fails unless a text may name a group. -/
def checkGroupName (name : Text) (back : Nat) : Reading Unit := do
  if !isGroupName name then flaw (.badGroupName name) (name.length + back)

/-- Opens a group, recording its name if it has one. -/
def openGroup (name : Option Text) : Reading Nat := do
  let s ← get
  let index := s.groupCount
  match name with
  | none =>
    set { s with widths := s.widths ++ [none] }
    return index
  | some name =>
    match s.names.find? fun n => n.1 == name with
    | some (_, earlier) => flaw (.redefinedGroupName name index earlier) (name.length + 1)
    | none =>
      set { s with widths := s.widths ++ [none], names := s.names ++ [(name, index)] }
      return index

/-- Records the width of a group that ends. -/
def closeGroup (index : Nat) (w : Width) : Reading Unit :=
  modify fun s => { s with widths := s.widths.set (index - 1) (some w) }

/-- Fails if a lookbehind refers to a group that it cannot rely on. -/
def checkLookbehind (index : Nat) : Reading Unit := do
  let s ← get
  match s.lookbehind with
  | none => return ()
  | some count =>
    if !s.isClosed index then flaw .openGroup
    else if count ≤ index then flaw .sameLookbehind

end Reading

end ToolPolicy.Regex
