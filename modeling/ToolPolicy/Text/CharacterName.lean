import ToolPolicy.Text.Basic
import ToolPolicy.Text.NameTable.Alias
import ToolPolicy.Text.NameTable.Ancient
import ToolPolicy.Text.NameTable.Asian
import ToolPolicy.Text.NameTable.Carved
import ToolPolicy.Text.NameTable.Eastern
import ToolPolicy.Text.NameTable.European
import ToolPolicy.Text.NameTable.Form
import ToolPolicy.Text.NameTable.Notation
import ToolPolicy.Text.NameTable.Picture
import ToolPolicy.Text.NameTable.Sign
import ToolPolicy.Text.NameTable.Symbol

/-!
# Names of characters

Every character of Unicode has a name, and some have others besides. Most names are in tables;
ideographs have their number in the name, and syllables of Hangul are named by the letters that they
consist of. Case does not count in a name, except for unified ideographs and syllables of Hangul.

In a table, a word with an equals sign says which number the next name has; the names behind it
follow on. A small letter in front of a word begins a name with as many words of the name before it
as the letter counts, `a` being none.
-/

namespace ToolPolicy.CodePoint

/-! ## Tables -/

/-- The code point of a name in the words of a table: `name` is the name that has been read so far,
and `next` the code point of the one after it. -/
def findName? (wanted name : List Text) (next : CodePoint) : List Text → Option CodePoint
  | [] => if name = wanted then some (next - 1) else none
  | [] :: rest => findName? wanted name next rest
  | (c :: letters) :: rest =>
    if c = 61 then
      if name = wanted then some (next - 1)
      else findName? wanted name (Text.toNatBase 16 letters) rest
    else if isAsciiLower c then
      if name = wanted then some (next - 1)
      else
        let kept := name.take (c - 97)
        findName? wanted (if letters.isEmpty then kept else kept ++ [letters]) (next + 1) rest
    else findName? wanted (name ++ [c :: letters]) next rest

/-- All tables, in pieces. -/
def nameTables : List String :=
  NameTable.europeanNames ++ NameTable.asianNames ++ NameTable.symbolNames ++ NameTable.signNames
    ++ NameTable.easternNames ++ NameTable.formNames ++ NameTable.ancientNames
    ++ NameTable.carvedNames ++ NameTable.notationNames ++ NameTable.pictureNames
    ++ NameTable.aliases

/-- The code point of a name in capital letters in one of the tables. -/
def inTables? (name : Text) : Option CodePoint :=
  nameTables.findSome? fun table => findName? (Text.splitOn 32 name) [] 0 (Text.words table)

/-! ## Names with a number -/

/-- The ideographs that are named by their number. -/
def isNumberedIdeograph (c : CodePoint) : Bool :=
  (0x3400 ≤ c && c ≤ 0x4DBF) || (0x4E00 ≤ c && c ≤ 0x9FFF) || (0x20000 ≤ c && c ≤ 0x2A6DF)
    || (0x2A700 ≤ c && c ≤ 0x2B738) || (0x2B740 ≤ c && c ≤ 0x2B81D)
    || (0x2B820 ≤ c && c ≤ 0x2CEA1) || (0x2CEB0 ≤ c && c ≤ 0x2EBE0)
    || (0x30000 ≤ c && c ≤ 0x3134A)

/-- The ideograph with a number of four or five digits, capital letters among them. -/
def ideograph? (digits : Text) : Option CodePoint :=
  let c := Text.toNatBase 16 digits
  if digits.all (fun d => isHexDigit d && !isAsciiLower d) &&
    (digits.length == 4 || digits.length == 5)
      && isNumberedIdeograph c then some c else none

/-- The other families whose names end with the number of the code point. -/
def numberedFamilies : List (String × List (CodePoint × CodePoint)) :=
  [("CJK COMPATIBILITY IDEOGRAPH-", [(0xF900, 0xFA6D), (0xFA70, 0xFAD9), (0x2F800, 0x2FA1D)]),
    ("KHITAN SMALL SCRIPT CHARACTER-", [(0x18B00, 0x18CD5)]),
    ("NUSHU CHARACTER-", [(0x1B170, 0x1B2FB)])]

/-- The code point of a name in capital letters that ends with its number. -/
def numbered? (name : Text) : Option CodePoint :=
  numberedFamilies.findSome? fun (start, ranges) =>
    let digits := name.drop start.length
    let c := Text.toNatBase 16 digits
    if Text.startsWith name start && inRanges ranges c
        && digits.map (fun d => if isAsciiUpper d then d + 32 else d) = Text.hex 4 c
    then some c else none

/-! ## Syllables -/

/-- The names of the letters that begin a syllable, of those in its middle and
of those that end it. -/
def hangulLetters : List (List String) :=
  [["G", "GG", "N", "D", "DD", "R", "M", "B", "BB", "S", "SS", "", "J", "JJ", "C",
   "K", "T", "P", "H"],
    ["A", "AE", "YA", "YAE", "EO", "E", "YEO", "YE", "O", "WA", "WAE", "OE", "YO", "U", "WEO", "WE",
      "WI", "YU", "EU", "YI", "I"],
    ["", "G", "GG", "GS", "N", "NJ", "NH", "D", "L", "LG", "LM", "LB", "LS", "LT", "LP", "LH", "M",
      "B", "BS", "S", "SS", "NG", "J", "C", "K", "T", "P", "H"]]

/-- The longest of some letters with which a text begins, as its index and its name. -/
def longestLetter? (letters : List String) (t : Text) : Option (Nat × Text) :=
  (letters.map Text.ofString).zipIdx.foldl
    (fun best (name, index) =>
      if Text.startsWith t name && best.all (fun b => b.2.length < name.length) then
        some (index, name)
      else best)
    none

/-- The number of the syllable with some letters, of which `count` are its beginning, after
those that have been read. -/
def readHangul? (number : Nat) : List (List String) → Text → Option Nat
  | [], t => if t.isEmpty then some number else none
  | letters :: rest, t => do
    let (index, name) ← longestLetter? letters t
    readHangul? (number * letters.length + index) rest (t.drop name.length)

/-- The first syllable. -/
def firstSyllable : CodePoint := 0xAC00

/-! ## Finding a character -/

/-- What follows a beginning of a text. -/
def after? (start : String) (t : Text) : Option Text :=
  if Text.startsWith t start then some (t.drop start.length) else none

/-- The code point of a name. -/
def ofName? (name : Text) : Option CodePoint :=
  match after? "HANGUL SYLLABLE " name with
  | some letters => (readHangul? 0 hangulLetters letters).map (firstSyllable + ·)
  | none =>
    match after? "CJK UNIFIED IDEOGRAPH-" name with
    | some digits => ideograph? digits
    | none =>
      let upper := name.map fun c => if isAsciiLower c then c - 32 else c
      (numbered? upper).or (inTables? upper)

end ToolPolicy.CodePoint
