import ToolPolicy.Value.Basic

/-!
# Writing JSON

A value as JSON text in ASCII: on one line with a blank after commas and colons, or with one entry a
line and an indentation. What JSON has no words for is written as null.
-/

namespace ToolPolicy.Json

/-- A `\u` escape. -/
def unicodeEscape (n : Nat) : Text := [92, 117] ++ Text.hex 4 n

/-- One code point within a string. -/
def escapeOne (c : CodePoint) : Text :=
  if c = 34 then [92, 34]
  else if c = 92 then [92, 92]
  else if c = 10 then [92, 'n']
  else if c = 13 then [92, 'r']
  else if c = 9 then [92, 't']
  else if c = 12 then [92, 'f']
  else if c = 8 then [92, 'b']
  else if 32 ≤ c && c < 127 then [c]
  else if c < 0x10000 then unicodeEscape c
  else
    let n := c - 0x10000
    unicodeEscape (0xD800 + n / 0x400) ++ unicodeEscape (0xDC00 + n % 0x400)

/-- A text as a JSON string. -/
def writeString (t : Text) : Text := 34 :: t.flatMap escapeOne ++ [34]

/-- A floating-point number as JSON. -/
def writeFloat : Binary64 → Text
  | .nan => "NaN"
  | .infinite negative => if negative then "-Infinity" else "Infinity"
  | x => x.text

/-- How containers are laid out. -/
inductive Layout where
  | oneLine
  /-- Each entry on a line of its own, indented by a step for each level. -/
  | indented (step : Nat)
  deriving DecidableEq, Repr

/-- The line break in front of an entry at a level. -/
def Layout.lineBreak (step level : Nat) : Text := 10 :: List.replicate (step * level) 32

/-- A container from its brackets and the texts of its entries; its own level is given. -/
def Layout.wrap (layout : Layout) (level : Nat) (opening closing : CodePoint)
    (entries : List Text) : Text :=
  if entries.isEmpty then [opening, closing]
  else match layout with
    | oneLine => opening :: Text.join [44, 32] entries ++ [closing]
    | indented step =>
      let inner := lineBreak step (level + 1)
      opening :: inner ++ Text.join (44 :: inner) entries ++ lineBreak step level ++ [closing]

mutual

/-- A value at a level. -/
def writeAt (layout : Layout) (level : Nat) : Value → Text
  | .bool b => if b then "true" else "false"
  | .int n => Text.ofInt n
  | .float x => writeFloat x
  | .str t => writeString t
  | .list items => layout.wrap level 91 93 (writeItems layout (level + 1) items)
  | .tuple items => layout.wrap level 91 93 (writeItems layout (level + 1) items)
  | .mapping entries => layout.wrap level 123 125 (writeFields layout (level + 1) entries)
  | _ => "null"

/-- The texts of some items. -/
def writeItems (layout : Layout) (level : Nat) : List Value → List Text
  | [] => []
  | v :: rest => writeAt layout level v :: writeItems layout level rest

/-- The texts of some entries; a key that is no text is written as one. -/
def writeFields (layout : Layout) (level : Nat) : List (Value × Value) → List Text
  | [] => []
  | (k, v) :: rest =>
    let name := match k with
      | .str t => writeString t
      | other => writeString (writeAt layout level other)
    (name ++ [58, 32] ++ writeAt layout level v) :: writeFields layout level rest

end

/-- A value on one line. -/
def write (v : Value) : Text := writeAt .oneLine 0 v

/-- A value with one entry a line, indented by two. -/
def writeIndented (v : Value) : Text := writeAt (.indented 2) 0 v

end ToolPolicy.Json
