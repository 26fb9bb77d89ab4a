import ToolPolicy.Text.Basic

/-!
# Base 64

Bytes written with 64 signs, four signs for three bytes. Reading is lenient: whatever is no sign is
skipped, and padding ends the text where it can.
-/

namespace ToolPolicy.Base64

/-- Why signs stand for no bytes. -/
inductive Flaw where
  /-- One sign is left over; so many bytes came before it. -/
  | leftOver (bytes : Nat)
  | padding
  deriving DecidableEq, Repr

/-- The words for a flaw. -/
def Flaw.message : Flaw → Text
  | leftOver bytes =>
    "Invalid base64-encoded string: number of data characters (" ++ Text.ofNat (bytes / 3 * 4 + 1)
      ++ ") cannot be 1 more than a multiple of 4"
  | padding => "Incorrect padding"

/-- The six bits that a sign stands for. -/
def valueOf (c : CodePoint) : Option Nat :=
  if CodePoint.isAsciiUpper c then some (c - 65)
  else if CodePoint.isAsciiLower c then some (c - 71)
  else if CodePoint.isAsciiDigit c then some (c + 4)
  else if c = 43 then some 62
  else if c = 47 then some 63
  else none

/-- A group of four signs in the making. -/
structure Group where
  /-- How many signs there are, below four. -/
  signs : Nat := 0
  /-- How many padding signs have come since the last sign. -/
  pads : Nat := 0
  /-- The bits that wait for the next sign. -/
  bits : Nat := 0
  deriving Repr

/-- Takes in a sign: the byte that it completes, if any, and the group afterwards. -/
def Group.take (g : Group) (v : Nat) : Option UInt8 × Group :=
  match g.signs with
  | 0 => (none, ⟨1, 0, v⟩)
  | 1 => (some (g.bits * 4 + v / 16).toUInt8, ⟨2, 0, v % 16⟩)
  | 2 => (some (g.bits * 16 + v / 4).toUInt8, ⟨3, 0, v % 4⟩)
  | _ => (some (g.bits * 64 + v).toUInt8, {})

/-- The bytes of the rest of a text, after the given number of bytes. -/
def decodeFrom (g : Group) (count : Nat) : Text → Except Flaw (List UInt8)
  | [] =>
    if g.signs = 0 then .ok []
    else if g.signs = 1 then .error (.leftOver count)
    else .error .padding
  | c :: rest =>
    if c = 61 then
      if g.signs < 2 then decodeFrom g count rest
      else if 4 ≤ g.signs + (g.pads + 1) then .ok []
      else decodeFrom { g with pads := g.pads + 1 } count rest
    else match valueOf c with
      | none => decodeFrom g count rest
      | some v => match g.take v with
        | (none, g) => decodeFrom g count rest
        | (some b, g) => (decodeFrom g (count + 1) rest).map (b :: ·)

/-- The bytes that a text stands for. -/
def decode (t : Text) : Except Flaw (List UInt8) := decodeFrom {} 0 t

end ToolPolicy.Base64
