/-!
# Text as a sequence of code points

Commands, rules and documents are sequences of Unicode code points. A JSON escape may leave half of
a surrogate pair on its own, so the type of text is wider than `String`: it is a list of numbers,
and `String` appears only where a literal is written or bytes leave the program.

Main statements: `ofString_append` and `length_ofString` (a literal is read one code point for one
character), and `splitOn_append_cons` (splitting commutes with appending at a separator).
-/

namespace ToolPolicy

/-- A Unicode code point; lone surrogates are included. -/
abbrev CodePoint := Nat

/-- A text: its code points in order. -/
abbrev Text := List CodePoint

/-- The code points of a literal. -/
def Text.ofString (s : String) : Text := s.toList.map Char.toNat

instance : Coe Char CodePoint := ⟨Char.toNat⟩

instance : Coe String Text := ⟨Text.ofString⟩

namespace CodePoint

/-- Whether a code point is half of a surrogate pair. -/
def isSurrogate (c : CodePoint) : Bool := 0xD800 ≤ c && c ≤ 0xDFFF

/-- Whether a code point opens a surrogate pair. -/
def isHighSurrogate (c : CodePoint) : Bool := 0xD800 ≤ c && c ≤ 0xDBFF

/-- Whether a code point closes a surrogate pair. -/
def isLowSurrogate (c : CodePoint) : Bool := 0xDC00 ≤ c && c ≤ 0xDFFF

/-- The digits `0` to `9`. -/
def isAsciiDigit (c : CodePoint) : Bool := 48 ≤ c && c ≤ 57

/-- The letters `A` to `Z`. -/
def isAsciiUpper (c : CodePoint) : Bool := 65 ≤ c && c ≤ 90

/-- The letters `a` to `z`. -/
def isAsciiLower (c : CodePoint) : Bool := 97 ≤ c && c ≤ 122

/-- The unaccented Latin letters. -/
def isAsciiLetter (c : CodePoint) : Bool := isAsciiUpper c || isAsciiLower c

/-- The value of a digit in a base up to 36, or `none` for any other code point. -/
def digitValue? (c : CodePoint) : Option Nat :=
  if isAsciiDigit c then some (c - 48)
  else if isAsciiLower c then some (c - 87)
  else if isAsciiUpper c then some (c - 55)
  else none

/-- Hexadecimal digits in either case. -/
def isHexDigit (c : CodePoint) : Bool :=
  isAsciiDigit c || (65 ≤ c && c ≤ 70) || (97 ≤ c && c ≤ 102)

/-- The digits `0` to `7`. -/
def isOctalDigit (c : CodePoint) : Bool := 48 ≤ c && c ≤ 55

/-- Whether a sorted list of inclusive ranges covers a code point. -/
def inRanges (ranges : List (CodePoint × CodePoint)) (c : CodePoint) : Bool :=
  ranges.any fun r => r.1 ≤ c && c ≤ r.2

end CodePoint

namespace Text

/-- The decimal digits of a natural number. -/
def ofNat (n : Nat) : Text := ofString (toString n)

/-- The decimal digits of an integer, with a sign if it is negative. -/
def ofInt (n : Int) : Text := ofString (toString n)

/-- The number that digits write in the given base; digits outside the base count as they are. -/
def toNatBase (base : Nat) (digits : Text) : Nat :=
  digits.foldl (fun n c => n * base + (CodePoint.digitValue? c).getD 0) 0

/-- The hexadecimal digits of a number, in lower case, with zeros in front up to a width. -/
def hex (width n : Nat) : Text :=
  let digits := (Nat.toDigits 16 n).map Char.toNat
  List.replicate (width - digits.length) '0'.toNat ++ digits

/-- Whether no code point of a text is half of a surrogate pair. -/
def isScalar (t : Text) : Bool := t.all fun c => !CodePoint.isSurrogate c

/-- The pieces of a text between the occurrences of a separator; one piece more than separators. -/
def splitOn (sep : CodePoint) : Text → List Text
  | [] => [[]]
  | c :: rest =>
    if c = sep then [] :: splitOn sep rest
    else match splitOn sep rest with
      | [] => [[c]]
      | piece :: more => (c :: piece) :: more

/-- The words of a table that is written as a literal, between blanks and line feeds. -/
def words (table : String) : List Text :=
  ((splitOn 10 table).flatMap (splitOn 32)).filter fun w => !w.isEmpty

/-- Texts in order with a separator between neighbours. -/
def join (sep : Text) : List Text → Text
  | [] => []
  | [t] => t
  | t :: rest => t ++ sep ++ join sep rest

/-- Cuts at the first occurrence of a code point: what is before it, and what follows it if there
is one. -/
def cutAt (sep : CodePoint) : Text → Text × Option Text
  | [] => ([], none)
  | c :: rest =>
    if c = sep then ([], some rest)
    else (c :: (cutAt sep rest).1, (cutAt sep rest).2)

/-- The sum of the sizes of the code points of a text. -/
def weight (size : CodePoint → Nat) : Text → Nat
  | [] => 0
  | c :: rest => size c + weight size rest

/-- Whether a text begins with another one. -/
def startsWith (t start : Text) : Bool := start.isPrefixOf t

/-- Whether a text ends with another one. -/
def endsWith (t final : Text) : Bool := final.isSuffixOf t

/-- Drops the code points of a class from both ends. -/
def trimBoth (p : CodePoint → Bool) (t : Text) : Text :=
  ((t.dropWhile p).reverse.dropWhile p).reverse

/-- Code points compared one by one, a shorter text before its extensions. -/
def le : Text → Text → Bool
  | [], _ => true
  | _ :: _, [] => false
  | a :: s, b :: t => a < b || (a == b && le s t)

/-- A text as a `String`; code points that no `String` holds become the replacement character. -/
def toString (t : Text) : String :=
  String.ofList (t.map fun c => if h : c.isValidChar then Char.ofNatAux c h else '\uFFFD')

@[simp] theorem length_ofString (s : String) : (ofString s).length = s.length := by
  simp [ofString, String.length_toList]

@[simp] theorem ofString_append (s t : String) : ofString (s ++ t) = ofString s ++ ofString t := by
  simp [ofString]

@[simp] theorem weight_append (size : CodePoint → Nat) (s t : Text) :
    weight size (s ++ t) = weight size s + weight size t := by
  induction s with
  | nil => simp [weight]
  | cons c rest ih =>
    simp only [List.cons_append, weight, ih]
    omega

/-- A text always has at least one piece. -/
theorem splitOn_ne_nil (sep : CodePoint) (t : Text) : splitOn sep t ≠ [] := by
  cases t with
  | nil => simp [splitOn]
  | cons c rest =>
    unfold splitOn
    split
    · simp
    · split <;> simp

/-- A text without the separator is its only piece. -/
theorem splitOn_of_notMem {sep : CodePoint} {t : Text} (h : sep ∉ t) : splitOn sep t = [t] := by
  induction t with
  | nil => rfl
  | cons c rest ih =>
    simp only [List.mem_cons, not_or] at h
    simp [splitOn, Ne.symm h.1, ih h.2]

/-- Splitting commutes with appending at a separator. -/
theorem splitOn_append_cons (sep : CodePoint) (a b : Text) :
    splitOn sep (a ++ sep :: b) = splitOn sep a ++ splitOn sep b := by
  induction a with
  | nil => simp [splitOn]
  | cons c rest ih =>
    by_cases h : c = sep
    · simp [splitOn, h, ih]
    · have hne := splitOn_ne_nil sep rest
      cases hs : splitOn sep rest with
      | nil => exact absurd hs hne
      | cons piece more => simp [splitOn, h, ih, hs]

end Text

end ToolPolicy
