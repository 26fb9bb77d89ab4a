import ToolPolicy.Text.Basic

/-!
# UTF-8

Bytes and the text they stand for. Reading is either strict, and then says where and why it stopped,
or lenient, and then puts the replacement character for every maximal stretch that is no character.
`scan_of_lt` says that ASCII bytes stand for themselves.
-/

namespace ToolPolicy.Utf8

/-- Why bytes are not UTF-8. -/
inductive Cause where
  | invalidStart
  | invalidContinuation
  | endOfData
  deriving DecidableEq, Repr

/-- The words for a cause. -/
def Cause.message : Cause → Text
  | invalidStart => "invalid start byte"
  | invalidContinuation => "invalid continuation byte"
  | endOfData => "unexpected end of data"

/-- Bytes that are no character: where they are, and which byte they begin with. -/
structure Flaw where
  position : Nat
  length : Nat
  byte : UInt8
  cause : Cause
  deriving DecidableEq, Repr

/-- The text of a flaw. -/
def Flaw.message (f : Flaw) : Text :=
  let place : Text :=
    if f.length = 1 then
      "byte 0x" ++ Text.hex 2 f.byte.toNat ++ " in position " ++ Text.ofNat f.position
    else
      "bytes in position " ++ Text.ofNat f.position ++ "-"
        ++ Text.ofNat (f.position + f.length - 1)
  "'utf-8' codec can't decode " ++ place ++ ": " ++ f.cause.message

/-- The first character of some bytes, or why there is none, and how many bytes that takes. -/
structure Step where
  outcome : Except Cause CodePoint
  length : Nat
  deriving Repr

/-- Whether a byte continues a character. -/
def isTail (b : UInt8) : Bool := 0x80 ≤ b && b ≤ 0xBF

/-- The six bits that a continuation byte adds. -/
def withTail (n : Nat) (b : UInt8) : Nat := n * 64 + (b.toNat - 0x80)

/-- The remaining bytes of a character: the number so far, how many bytes it has so far, and
how many are still due. -/
def scanTails (n taken : Nat) : Nat → List UInt8 → Step
  | 0, _ => ⟨.ok n, taken⟩
  | _ + 1, [] => ⟨.error .endOfData, taken⟩
  | due + 1, b :: rest =>
    if isTail b then scanTails (withTail n b) (taken + 1) due rest
    else ⟨.error .invalidContinuation, taken⟩

/-- The second byte of a character, which has to lie in a range, and what follows it. -/
def scanSecond (n : Nat) (least greatest : UInt8) (due : Nat) : List UInt8 → Step
  | [] => ⟨.error .endOfData, 1⟩
  | b :: rest =>
    if least ≤ b && b ≤ greatest then scanTails (withTail n b) 2 due rest
    else ⟨.error .invalidContinuation, 1⟩

/-- The first character of bytes that begin with the given one. -/
def scan (b : UInt8) (rest : List UInt8) : Step :=
  if b < 0x80 then ⟨.ok b.toNat, 1⟩
  else if b < 0xC2 then ⟨.error .invalidStart, 1⟩
  else if b < 0xE0 then scanTails (b.toNat - 0xC0) 1 1 rest
  else if b < 0xF0 then
    scanSecond (b.toNat - 0xE0) (if b = 0xE0 then 0xA0 else 0x80) (if b = 0xED then 0x9F else 0xBF)
      1 rest
  else if b < 0xF5 then
    scanSecond (b.toNat - 0xF0) (if b = 0xF0 then 0x90 else 0x80) (if b = 0xF4 then 0x8F else 0xBF)
      2 rest
  else ⟨.error .invalidStart, 1⟩

/-- Reads bytes that begin at a position, up to the first flaw; `taken` of them belong to the
character before. The text so far is kept with the flaw. -/
def decodeFrom (position taken : Nat) : List UInt8 → Text × Option Flaw
  | [] => ([], none)
  | b :: rest =>
    match taken with
    | more + 1 => decodeFrom (position + 1) more rest
    | 0 =>
      let step := scan b rest
      match step.outcome with
      | .error cause => ([], some ⟨position, step.length, b, cause⟩)
      | .ok c =>
        let (text, flaw) := decodeFrom (position + 1) (step.length - 1) rest
        (c :: text, flaw)

/-- The text that bytes stand for, or the first flaw. -/
def decode (bytes : List UInt8) : Except Flaw Text :=
  match decodeFrom 0 0 bytes with
  | (text, none) => .ok text
  | (_, some flaw) => .error flaw

/-- The text that bytes stand for, with a replacement character for each flaw; `taken` of the bytes
belong to the character before. -/
def decodeLenientFrom (taken : Nat) : List UInt8 → Text
  | [] => []
  | b :: rest =>
    match taken with
    | more + 1 => decodeLenientFrom more rest
    | 0 =>
      let step := scan b rest
      let c := match step.outcome with
        | .ok c => c
        | .error _ => 0xFFFD
      c :: decodeLenientFrom (step.length - 1) rest

/-- The text that bytes stand for, with a replacement character for each flaw. -/
def decodeLenient (bytes : List UInt8) : Text := decodeLenientFrom 0 bytes

/-- The bytes of one code point. -/
def encodeOne (c : CodePoint) : List UInt8 :=
  if c < 0x80 then [c.toUInt8]
  else if c < 0x800 then [(0xC0 + c / 64).toUInt8, (0x80 + c % 64).toUInt8]
  else if c < 0x10000 then
    [(0xE0 + c / 4096).toUInt8, (0x80 + c / 64 % 64).toUInt8, (0x80 + c % 64).toUInt8]
  else
    [(0xF0 + c / 262144).toUInt8, (0x80 + c / 4096 % 64).toUInt8, (0x80 + c / 64 % 64).toUInt8,
      (0x80 + c % 64).toUInt8]

/-- The bytes of a text; a lone surrogate gets the bytes that its number would have. -/
def encode (t : Text) : List UInt8 := t.flatMap encodeOne

/-- Line ends of any convention, as line feeds. -/
def toLineFeeds : Text → Text
  | [] => []
  | 13 :: 10 :: rest => 10 :: toLineFeeds rest
  | 13 :: rest => 10 :: toLineFeeds rest
  | c :: rest => c :: toLineFeeds rest

/-- ASCII bytes stand for themselves. -/
theorem scan_of_lt {b : UInt8} (h : b < 0x80) (rest : List UInt8) :
    scan b rest = ⟨.ok b.toNat, 1⟩ := by
  simp [scan, h]

end ToolPolicy.Utf8
