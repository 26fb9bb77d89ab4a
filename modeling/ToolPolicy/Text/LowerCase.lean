import ToolPolicy.Text.CasedTable
import ToolPolicy.Text.Class

/-!
# Text in lower case

Most code points become lower-case one by one. Two do not: the dotted capital I becomes two code
points, and the capital sigma has a form of its own at the end of a word, that is, after a letter
with case and not before one.

Main statement: `lower_of_ascii` (within ASCII the mapping is the one of code points).
-/

namespace ToolPolicy

namespace CodePoint

/-- Code points that are passed over on the way to the letter before or after a place. -/
def isCaseIgnorable (c : CodePoint) : Bool := inRanges ignorableRanges c

/-- Upper-case, lower-case and title-case letters. -/
def hasCase (c : CodePoint) : Bool := inRanges casedRanges c

/-- The capital sigma. -/
def capitalSigma : CodePoint := 0x3A3

/-- The capital I with a dot above. -/
def dottedCapitalI : CodePoint := 0x130

end CodePoint

namespace Text

/-- Whether the first letter or sign of a text that counts has case. -/
def beginsWithCase (t : Text) : Bool :=
  (t.dropWhile CodePoint.isCaseIgnorable).head?.any CodePoint.hasCase

/-- The lower-case form of a code point; `inWord` says whether a letter with case is before it. -/
def lowerAt (inWord : Bool) (c : CodePoint) (rest : Text) : Text :=
  if c = CodePoint.capitalSigma then [if inWord && !beginsWithCase rest then 0x3C2 else 0x3C3]
  else if c = CodePoint.dottedCapitalI then [0x69, 0x307]
  else [CodePoint.lower c]

/-- The lower-case form of what follows a place. -/
def lowerFrom (inWord : Bool) : Text → Text
  | [] => []
  | c :: rest =>
    lowerAt inWord c rest
      ++ lowerFrom (if CodePoint.isCaseIgnorable c then inWord else CodePoint.hasCase c) rest

/-- A text in lower case. -/
def lower (t : Text) : Text := lowerFrom false t

theorem lowerFrom_of_ascii {t : Text} (h : ∀ c ∈ t, c < 128) (inWord : Bool) :
    lowerFrom inWord t = t.map CodePoint.asciiLower := by
  induction t generalizing inWord with
  | nil => rfl
  | cons c rest ih =>
    have hc : c < 128 := h c (by simp)
    have hsigma : c ≠ CodePoint.capitalSigma := fun e => absurd (e ▸ hc) (by decide)
    have hdot : c ≠ CodePoint.dottedCapitalI := fun e => absurd (e ▸ hc) (by decide)
    simp [lowerFrom, lowerAt, hsigma, hdot, CodePoint.lower_of_lt hc,
      ih fun d hd => h d (by simp [hd])]

theorem lower_of_ascii {t : Text} (h : ∀ c ∈ t, c < 128) : lower t = t.map CodePoint.asciiLower :=
  lowerFrom_of_ascii h false

end Text

end ToolPolicy
