import ToolPolicy.Yaml.Flaw

/-!
# Sources

The bytes of a file are turned into text piece by piece, and the text is handed on in portions. What
is wrong with a portion is noticed when the portion is asked for, so a document can have a flaw
before a place that no document may have. A `Source` is the text up to the first bad portion, and
what is wrong with that.
-/

namespace ToolPolicy.Yaml

/-- Whether a code point may stand in a document. -/
def isPrintable (c : CodePoint) : Bool :=
  c == 9 || c == 10 || c == 13 || (0x20 ≤ c && c ≤ 0x7E) || c == 0x85 || (0xA0 ≤ c && c ≤ 0xD7FF)
    || (0xE000 ≤ c && c ≤ 0xFFFD) || (0x10000 ≤ c && c ≤ 0x10FFFF)

/-- The text of a document as far as it can be had, and why it is not complete. -/
structure Source where
  text : Text
  failure : Option Failure := none
  deriving Repr

/-! ## From bytes to pieces of text -/

/-- The smallest number of bytes that are read at a time. -/
def pieceSize : Nat := 8192

/-- The number of code points of a portion. -/
def portionSize : Nat := 4096

/-- The bytes that are still to be read, and what is left of those that were. -/
structure Feed where
  /-- The bytes to come. -/
  bytes : List UInt8
  /-- The beginning of a character whose end is to come. -/
  partialBytes : List UInt8 := []
  /-- Whether a carriage return waits for what follows it. -/
  pendingReturn : Bool := false
  /-- Text that has been read and not been handed on. -/
  text : Text := []
  /-- How many bytes the last piece had, and how many code points they were. -/
  ratio : Nat × Nat := (0, 0)
  deriving Repr

namespace Feed

/-- How many bytes are read for a number of code points. -/
def sizeFor (f : Feed) (count : Nat) : Nat :=
  let (bytes, points) := f.ratio
  max pieceSize (if points < bytes then bytes * count / points else count)

/-- Whether bytes are the first two of the three that the number of a surrogate would have. -/
def isHalfSurrogate : List UInt8 → Bool
  | [a, b] => a == 0xED && 0xA0 ≤ b && b ≤ 0xBF
  | _ => false

/-- Whether bytes without a flaw up to here are only short of the end of a character. What would be
half of a surrogate pair is refused when its last byte is there. -/
def isCut (flaw : Utf8.Flaw) (bytes : List UInt8) : Bool :=
  (flaw.cause == .endOfData && flaw.position + flaw.length == bytes.length)
    || isHalfSurrogate (bytes.drop flaw.position)

/-- Reads a piece of bytes for a number of code points. -/
def readPiece (f : Feed) (count : Nat) : Except Utf8.Flaw Feed :=
  let piece := f.bytes.take (f.sizeFor count)
  let isLast := piece.isEmpty
  let bytes := f.partialBytes ++ piece
  let (decoded, flaw) := Utf8.decodeFrom 0 0 bytes
  let result : Except Utf8.Flaw (List UInt8) := match flaw with
    | none => .ok []
    | some flaw =>
      if !isLast && isCut flaw bytes then .ok (bytes.drop flaw.position) else .error flaw
  result.map fun partialBytes =>
    let decoded := if f.pendingReturn then 13 :: decoded else decoded
    let waits := !isLast && decoded.getLast? == some 13
    let text := Utf8.toLineFeeds (if waits then decoded.dropLast else decoded)
    { bytes := f.bytes.drop piece.length, partialBytes, pendingReturn := waits,
      text := f.text ++ text,
      ratio := (if text.isEmpty then (0, 0) else (piece.length, text.length)) }

/-- Reads pieces until there is a portion of text, or no more of it. -/
def fill : Nat → Feed → Except Utf8.Flaw Feed
  | 0, f => .ok f
  | fuel + 1, f =>
    if portionSize ≤ f.text.length then .ok f
    else if f.bytes.isEmpty && f.partialBytes.isEmpty && !f.pendingReturn then .ok f
    else match f.readPiece (portionSize - f.text.length) with
      | .error flaw => .error flaw
      | .ok g => fill fuel g

/-- The portions of text, up to the first flaw. -/
def portions : Nat → Feed → List (Except Utf8.Flaw Text)
  | 0, _ => []
  | fuel + 1, f =>
    match f.fill (f.bytes.length + 2) with
    | .error flaw => [.error flaw]
    | .ok g =>
      if g.text.isEmpty then []
      else .ok (g.text.take portionSize)
        :: portions fuel { g with text := g.text.drop portionSize }

end Feed

/-! ## From portions to a source -/

/-- The first code point of a text that no document may hold, and its position. -/
def firstUnprintable? (position : Nat) (t : Text) : Option Failure :=
  (t.findIdx? fun c => !isPrintable c).map fun i => .unprintable (t.getD i 0) (position + i)

/-- The source that some portions make up, the first of which begins at a position. -/
def Source.ofPortions (position : Nat) : List (Except Utf8.Flaw Text) → Source
  | [] => ⟨[], none⟩
  | .error flaw :: _ => ⟨[], some (.undecodable flaw)⟩
  | .ok t :: rest =>
    match firstUnprintable? position t with
    | some f => ⟨[], some f⟩
    | none =>
      let source := ofPortions (position + t.length) rest
      { source with text := t ++ source.text }

/-- Joins the first two portions, which are asked for together. -/
def joinFirst : List (Except Utf8.Flaw Text) → List (Except Utf8.Flaw Text)
  | .ok a :: .ok b :: rest => .ok (a ++ b) :: rest
  | .ok _ :: .error flaw :: _ => [.error flaw]
  | portions => portions

/-- The source that the bytes of a file are. -/
def Source.ofBytes (bytes : List UInt8) : Source :=
  let feed : Feed := { bytes }
  ofPortions 0 (joinFirst (feed.portions (bytes.length + 1)))

end ToolPolicy.Yaml
