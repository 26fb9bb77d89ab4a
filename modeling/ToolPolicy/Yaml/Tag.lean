import ToolPolicy.Yaml.Moment

/-!
# Tags

A tag says what kind of value a node stands for. A node without a tag gets one: containers by
their form, scalars between quotes or in blocks count as text, and plain scalars are
recognised by how they look.

Main statement: `ofText_text` (a tag is read back from its address).
-/

namespace ToolPolicy.Yaml

/-- What a node stands for. -/
inductive Tag where
  | null
  | bool
  | int
  | float
  | binary
  | timestamp
  | str
  | seq
  | map
  | set
  | omap
  | pairs
  | merge
  | value
  | yaml
  | other (address : Text)
  deriving DecidableEq, Repr

namespace Tag

/-- The beginning of the addresses of the known tags. -/
def home : Text := "tag:yaml.org,2002:"

/-- The known tags and the ends of their addresses. -/
def known : List (Text × Tag) :=
  [("null", null), ("bool", bool), ("int", int), ("float", float), ("binary", binary),
    ("timestamp", timestamp), ("str", str), ("seq", seq), ("map", map),
    ("set", set), ("omap", omap),
    ("pairs", pairs), ("merge", merge), ("value", value), ("yaml", yaml)]

/-- The address of a tag. -/
def text : Tag → Text
  | other address => address
  | tag => home ++ ((known.find? fun e => e.2 == tag).map (·.1)).getD []

/-- The tag with an address. -/
def ofText (address : Text) : Tag :=
  if home.isPrefixOf address then
    (known.lookup (address.drop home.length)).getD (other address)
  else other address

/-- Whether nodes with this tag become containers that can grow. -/
def isContainer : Tag → Bool
  | seq | map | set | omap | pairs => true
  | _ => false

/-! ## Plain scalars -/

/-- The words for truth values. -/
def boolWords : List Text :=
  ["yes", "Yes", "YES", "no", "No", "NO", "true", "True", "TRUE", "false", "False",
   "FALSE", "on", "On",
    "ON", "off", "Off", "OFF"]

/-- The words for null. -/
def nullWords : List Text := ["~", "null", "Null", "NULL"]

/-- A text without the sign in front of it. -/
def withoutSign : Text → Text
  | c :: rest => if c = 43 || c = 45 then rest else c :: rest
  | [] => []

/-- Digits and underscores. -/
def isLooseDigit (c : CodePoint) : Bool := CodePoint.isAsciiDigit c || c == 95

/-- What follows digits, the first of which is one of a class, and underscores. -/
def afterDigits? (isFirst : CodePoint → Bool) : Text → Option Text
  | c :: rest => if isFirst c then some (rest.dropWhile isLooseDigit) else none
  | [] => none

/-- The digits `1` to `9`. -/
def isLeadingDigit (c : CodePoint) : Bool := 49 ≤ c && c ≤ 57

/-- What follows a colon and a number below sixty. -/
def afterPlace? : Text → Option Text
  | 58 :: c :: rest =>
    if !CodePoint.isAsciiDigit c then none
    else match rest with
      | d :: more => some (if c ≤ 53 && CodePoint.isAsciiDigit d then more else rest)
      | [] => some []
  | _ => none

/-- What follows the places of a number in base sixty, of which there is at least one. -/
def afterPlaces? : Nat → Text → Option Text
  | 0, _ => none
  | fuel + 1, t =>
    match afterPlace? t with
    | some rest => some ((afterPlaces? fuel rest).getD rest)
    | none => none

/-- Whether all of a text, which is not empty, is of a class. -/
def isRun (p : CodePoint → Bool) (t : Text) : Bool := !t.isEmpty && t.all p

/-- Whether a text looks like an integer. -/
def looksInt (t : Text) : Bool :=
  let body := withoutSign t
  let plain := match body with
    | 48 :: 98 :: rest => isRun (fun c => c == 48 || c == 49 || c == 95) rest
    | 48 :: 120 :: rest => isRun (fun c => CodePoint.isHexDigit c || c == 95) rest
    | 48 :: rest => rest.all fun c => CodePoint.isOctalDigit c || c == 95
    | _ => afterDigits? isLeadingDigit body == some []
  plain || match afterDigits? isLeadingDigit body with
    | some rest => afterPlaces? rest.length rest == some []
    | none => false

/-- Whether a text is nothing, or an exponent with a sign. -/
def isExponent : Text → Bool
  | [] => true
  | c :: sign :: digits =>
    (c == 101 || c == 69) && (sign == 43 || sign == 45) && isRun CodePoint.isAsciiDigit digits
  | _ => false

/-- Whether a text looks like a number with a point. -/
def looksFloat (t : Text) : Bool :=
  let body := withoutSign t
  let whole := afterDigits? CodePoint.isAsciiDigit body
  let plain := match whole with
    | some (46 :: rest) => isExponent (rest.dropWhile isLooseDigit)
    | _ => false
  let small := match t with
    | 46 :: c :: rest => CodePoint.isAsciiDigit c && isExponent (rest.dropWhile isLooseDigit)
    | _ => false
  let sexagesimal := match whole.bind fun rest => afterPlaces? rest.length rest with
    | some (46 :: rest) => rest.all isLooseDigit
    | _ => false
  plain || small || sexagesimal || infinityWords.contains body || nanWords.contains t
where
  /-- The words for infinity. -/
  infinityWords : List Text := [".inf", ".Inf", ".INF"]
  /-- The words for what is no number. -/
  nanWords : List Text := [".nan", ".NaN", ".NAN"]

/-- Whether a text looks like a date or a time; a date alone has two digits for month and day. -/
def looksTimestamp (t : Text) : Bool :=
  match Moment.read? t with
  | some m => m.clock.isSome || (m.month.length == 2 && m.day.length == 2)
  | none => false

/-- The tag of a plain scalar that is not empty and has no line feed at its end. -/
def ofWord (t : Text) : Tag :=
  if boolWords.contains t then bool
  else if nullWords.contains t then null
  else if looksFloat t then float
  else if looksInt t then int
  else if t == Text.ofString "<<" then merge
  else if looksTimestamp t then timestamp
  else if t == Text.ofString "=" then value
  else if ([[33], [38], [42]] : List Text).contains t then yaml
  else str

/-- A text without the line feed at its end. -/
def withoutFinalBreak (t : Text) : Text :=
  if t.getLast? == some 10 then t.dropLast else t

/-- The tag of a plain scalar. -/
def ofPlain (t : Text) : Tag :=
  if t.isEmpty then null
  else match withoutFinalBreak t with
    | [] => str
    | word => ofWord word

/-! ## Small laws -/

/-- A tag is read back from its address. -/
theorem ofText_text {tag : Tag} (h : ∀ address, tag ≠ other address) : ofText tag.text = tag := by
  cases tag with
  | other address => exact absurd rfl (h address)
  | _ => decide

end Tag

end ToolPolicy.Yaml
