import ToolPolicy.Text.LetterTable
import ToolPolicy.Text.CaseTable
import ToolPolicy.Text.PrintTable

/-!
# Character classes and simple case mappings

The classes that patterns, group names and line trimming ask about, over all of Unicode, with the
answer for the first 128 code points given directly. Main statement: `lower_of_lt`
says what the mapping is on ASCII.
-/

namespace ToolPolicy.CodePoint

/-! ## Classes -/

/-- White space: what trimming removes and `\s` matches. -/
def isSpace (c : CodePoint) : Bool :=
  if c < 128 then (9 ≤ c && c ≤ 13) || (28 ≤ c && c ≤ 32) else inRanges spaceRanges c

/-- White space of ASCII: blank, tab, line feed, carriage return, form feed, vertical tab. -/
def isAsciiSpace (c : CodePoint) : Bool := c == 32 || (9 ≤ c && c ≤ 13)

/-- Letters of any script. -/
def isLetter (c : CodePoint) : Bool :=
  if c < 128 then isAsciiLetter c else inRanges letterRanges c

/-- Letters, digits and other code points with a numeric value. -/
def isAlphanumeric (c : CodePoint) : Bool :=
  if c < 128 then isAsciiLetter c || isAsciiDigit c
  else inRanges letterRanges c || inRanges numeralRanges c

/-- What `\w` matches: letters, numerals and the underscore. -/
def isWord (c : CodePoint) : Bool := isAlphanumeric c || c == 95

/-- What `\w` matches within ASCII. -/
def isAsciiWord (c : CodePoint) : Bool := isAsciiLetter c || isAsciiDigit c || c == 95

/-- The value of a decimal digit of any script. -/
def decimalValue? (c : CodePoint) : Option Nat :=
  if c < 128 then (if isAsciiDigit c then some (c - 48) else none)
  else (decimalRanges.find? fun r => r.1 ≤ c && c ≤ r.2).map fun r => (c - r.1) % 10

/-- Decimal digits of any script: what `\d` matches. -/
def isDecimal (c : CodePoint) : Bool := (decimalValue? c).isSome

/-- Code points that are shown as they are when text is quoted. -/
def isPrintable (c : CodePoint) : Bool :=
  if c < 127 then 32 ≤ c else !inRanges unprintableRanges c

/-- Code points that may start an identifier. -/
def isNameStart (c : CodePoint) : Bool :=
  if c < 128 then isAsciiLetter c || c == 95
  else (inRanges letterRanges c && !inRanges nameStartExcludedRanges c)
    || inRanges nameStartExtraRanges c

/-- Code points that may stand in an identifier after the first place. -/
def isNameContinue (c : CodePoint) : Bool :=
  if c < 128 then isAsciiWord c else isNameStart c || inRanges nameContinueRanges c

/-- How many cells a code point takes on a terminal. -/
def cellWidth (c : CodePoint) : Nat :=
  if c < 128 then (if 32 ≤ c && c < 127 then 1 else 0)
  else if c < 160 || inRanges zeroWidthRanges c then 0
  else if inRanges wideRanges c then 2
  else 1

/-- The code point that joins what is on its two sides into one picture. -/
def joiner : CodePoint := 0x200D

/-- The selector that asks for the coloured form of a character. -/
def colouredForm : CodePoint := 0xFE0F

/-- The selector that asks for the plain form of a character. -/
def plainForm : CodePoint := 0xFE0E

/-- Narrow signs whose coloured form is wide. -/
def isWidened (c : CodePoint) : Bool := inRanges widenedRanges c

/-! ## Case -/

/-- Maps a code point by the run that holds it, if one does. -/
def mapByRuns (runs : List (CodePoint × CodePoint × Nat × Int)) (c : CodePoint) : CodePoint :=
  match runs.find? fun r => r.1 ≤ c && c ≤ r.2.1 && (c - r.1) % r.2.2.1 == 0 with
  | some r => (c + r.2.2.2).toNat
  | none => c

/-- The simple lower-case form. -/
def lower (c : CodePoint) : CodePoint :=
  if c < 128 then (if isAsciiUpper c then c + 32 else c) else mapByRuns lowerRuns c

/-- The simple upper-case form. -/
def upper (c : CodePoint) : CodePoint :=
  if c < 128 then (if isAsciiLower c then c - 32 else c) else mapByRuns upperRuns c

/-- The lower-case form within ASCII. -/
def asciiLower (c : CodePoint) : CodePoint := if isAsciiUpper c then c + 32 else c

/-- Whether one of the two mappings moves a code point. -/
def isCased (c : CodePoint) : Bool := c != lower c || c != upper c

/-- Whether a run moves a code point of an inclusive range. -/
def runMeets (first last : CodePoint) (r : CodePoint × CodePoint × Nat × Int) : Bool :=
  let (a, b, step, _) := r
  let from' := if first ≤ a then a else a + (first - a + step - 1) / step * step
  from' ≤ b && from' ≤ last

/-- Whether an inclusive range holds a code point with case. -/
def rangeHasCase (first last : CodePoint) : Bool :=
  lowerRuns.any (runMeets first last) || upperRuns.any (runMeets first last)

/-- The other lower-case letters with the same upper-case form. -/
def siblings (c : CodePoint) : List CodePoint :=
  ((lowerSiblings.find? fun g => g.contains c).getD []).filter (· != c)

/-- All code points whose simple lower-case form is the given one. -/
def lowerSources (c : CodePoint) : List CodePoint :=
  (if lower c = c then [c] else []) ++
    lowerRuns.filterMap fun (a, b, step, delta) =>
      let source := (c : Int) - delta
      if a ≤ source && source ≤ b && (source.toNat - a) % step == 0 && source != c
      then some source.toNat else none

/-! ## Small laws -/

theorem lower_of_lt {c : CodePoint} (h : c < 128) : lower c = asciiLower c := by
  simp [lower, asciiLower, h]

end ToolPolicy.CodePoint
