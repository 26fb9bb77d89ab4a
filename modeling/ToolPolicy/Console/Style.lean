import ToolPolicy.Text.LowerCase
import ToolPolicy.Text.Number

/-!
# Styles

A style of console text is written in words: attributes, a colour, a colour of the background after
`on`, and the target of a link. The same style can be written in several ways, so a style that is
closed by its name is compared in a normal form: full names of attributes in a fixed order, then
the colours. What is no style stands for itself, in lower case. A colour of three parts one of
which has no digits is a fault.
-/

namespace ToolPolicy

/-- A style as far as it is written: attributes that are on or off, colours and a link. -/
structure Style where
  attributes : List (Text × Bool) := []
  colour : Option Text := none
  background : Option Text := none
  link : Option Text := none
  deriving DecidableEq, Repr

namespace Style

/-! ## Vocabulary -/

/-- The attributes, in the order in which a style names them. -/
def attributeNames : List String :=
  ["bold", "dim", "italic", "underline", "blink", "blink2", "reverse", "conceal", "strike",
    "underline2", "frame", "encircle", "overline"]

/-- Short names of attributes. -/
def shortNames : List (String × String) :=
  [("b", "bold"), ("d", "dim"), ("i", "italic"), ("u", "underline"), ("r", "reverse"),
    ("c", "conceal"), ("s", "strike"), ("uu", "underline2"), ("o", "overline")]

/-- The attribute that a word names. -/
def attribute? (word : Text) : Option Text :=
  match shortNames.find? fun n => Text.ofString n.1 == word with
  | some (_, name) => some name
  | none => (attributeNames.map Text.ofString).find? (· == word)

/-- The names of colours. -/
def colourNames : String := "
black red green yellow blue magenta cyan white bright_black bright_red bright_green
bright_yellow bright_blue bright_magenta bright_cyan bright_white grey0 gray0 navy_blue
dark_blue blue3 blue1 dark_green deep_sky_blue4 dodger_blue3 dodger_blue2 green4 spring_green4
turquoise4 deep_sky_blue3 dodger_blue1 green3 spring_green3 dark_cyan light_sea_green
deep_sky_blue2 deep_sky_blue1 spring_green2 cyan3 dark_turquoise turquoise2 green1 spring_green1
medium_spring_green cyan2 cyan1 dark_red deep_pink4 purple4 purple3 blue_violet orange4 grey37
gray37 medium_purple4 slate_blue3 royal_blue1 chartreuse4 dark_sea_green4 pale_turquoise4
steel_blue steel_blue3 cornflower_blue chartreuse3 cadet_blue sky_blue3 steel_blue1 pale_green3
sea_green3 aquamarine3 medium_turquoise chartreuse2 sea_green2 sea_green1 aquamarine1
dark_slate_gray2 dark_magenta dark_violet purple light_pink4 plum4 medium_purple3 slate_blue1
yellow4 wheat4 grey53 gray53 light_slate_grey light_slate_gray medium_purple light_slate_blue
dark_olive_green3 dark_sea_green light_sky_blue3 sky_blue2 dark_sea_green3 dark_slate_gray3
sky_blue1 chartreuse1 light_green pale_green1 dark_slate_gray1 red3 medium_violet_red magenta3
dark_orange3 indian_red hot_pink3 medium_orchid3 medium_orchid medium_purple2 dark_goldenrod
light_salmon3 rosy_brown grey63 gray63 medium_purple1 gold3 dark_khaki navajo_white3 grey69
gray69 light_steel_blue3 light_steel_blue yellow3 dark_sea_green2 light_cyan3 light_sky_blue1
green_yellow dark_olive_green2 dark_sea_green1 pale_turquoise1 deep_pink3 magenta2 hot_pink2
orchid medium_orchid1 orange3 light_pink3 pink3 plum3 violet light_goldenrod3 tan misty_rose3
thistle3 plum2 khaki3 light_goldenrod2 light_yellow3 grey84 gray84 light_steel_blue1 yellow2
dark_olive_green1 honeydew2 light_cyan1 red1 deep_pink2 deep_pink1 magenta1 orange_red1
indian_red1 hot_pink dark_orange salmon1 light_coral pale_violet_red1 orchid2 orchid1 orange1
sandy_brown light_salmon1 light_pink1 pink1 plum1 gold1 navajo_white1 misty_rose1 thistle1
yellow1 light_goldenrod1 khaki1 wheat1 cornsilk1 grey100 gray100 grey3 gray3 grey7 gray7 grey11
gray11 grey15 gray15 grey19 gray19 grey23 gray23 grey27 gray27 grey30 gray30 grey35 gray35
grey39 gray39 grey42 gray42 grey46 gray46 grey50 gray50 grey54 gray54 grey58 gray58 grey62
gray62 grey66 gray66 grey70 gray70 grey74 gray74 grey78 gray78 grey82 gray82 grey85 gray85
grey89 gray89 grey93 gray93"

/-- Whether a text is a number up to 255. -/
def isByte (t : Text) : Bool :=
  !t.isEmpty && t.all CodePoint.isAsciiDigit && Text.toNatBase 10 t ≤ 255

/-- The argument of a word that is written like a call of a function. -/
def argument? (function : String) (word : Text) : Option Text :=
  let start := Text.ofString function ++ [40]
  if Text.startsWith word start && Text.endsWith word [41] && start.length < word.length then
    some ((word.drop start.length).dropLast)
  else none

/-- The parts of a colour that is given by how much red, green and blue it has. -/
def rgbParts? (word : Text) : Option (List Text) := do
  let inner ← argument? "rgb" word
  if inner.all fun c => CodePoint.isDecimal c || c == 44 then Text.splitOn 44 inner else none

/-- Whether three parts are numbers up to 255; a part without digits is a fault. -/
def areBytes (parts : List Text) : Except Fault Bool := do
  let numbers ← parts.mapM (Text.readInteger 10)
  return numbers.length == 3 && numbers.all (· ≤ 255)

/-- Whether a word is a colour by its name, a number or six hexadecimal digits. -/
def isPlainColour (word : Text) : Bool :=
  word == Text.ofString "default"
    || (Text.words colourNames).contains word
    || (match word with
      | 35 :: digits => digits.length == 6 && digits.all CodePoint.isHexDigit
      | _ => false)
    || ((argument? "color" word).any fun n => n.length ≤ 3 && isByte n)

/-- Whether a word is a colour. -/
def isColour (word : Text) : Except Fault Bool :=
  if isPlainColour word then .ok true
  else match rgbParts? word with
    | some [red, green, blue] => areBytes [red, green, blue]
    | _ => .ok false

/-! ## Reading and writing -/

/-- A style with an attribute on or off. -/
def setAttribute (s : Style) (name : Text) (isOn : Bool) : Style :=
  { s with attributes := (name, isOn) :: s.attributes.filter (·.1 != name) }

/-- A style with more words, if they make sense. -/
def withWords (s : Style) : List Text → Except Fault (Option Style)
  | [] => .ok (some s)
  | word :: rest =>
    if Text.lower word = "on" then
      match rest with
      | colour :: rest => do
        if ← isColour (Text.lower colour) then
          withWords { s with background := some (Text.lower colour) } rest
        else return none
      | [] => .ok none
    else if Text.lower word = "not" then
      match rest with
      | name :: rest =>
        match attribute? name with
        | some name => withWords (s.setAttribute name false) rest
        | none => .ok none
      | [] => .ok none
    else if Text.lower word = "link" then
      match rest with
      | target :: rest => withWords { s with link := some target } rest
      | [] => .ok none
    else
      match attribute? (Text.lower word) with
      | some name => withWords (s.setAttribute name true) rest
      | none => do
        if ← isColour (Text.lower word) then
          withWords { s with colour := some (Text.lower word) } rest
        else return none

/-- The style that some words describe. -/
def ofWords? (words : List Text) : Except Fault (Option Style) := withWords {} words

/-- The words for the attributes of a style. -/
def attributeWords (s : Style) : List Text :=
  attributeNames.flatMap fun name =>
    match s.attributes.lookup (Text.ofString name) with
    | some true => [Text.ofString name]
    | some false => ["not", Text.ofString name]
    | none => []

/-- The words of a style. -/
def words (s : Style) : List Text :=
  s.attributeWords ++ s.colour.toList ++ (s.background.map fun c => [Text.ofString "on", c]).getD []
    ++ (s.link.map fun t => [Text.ofString "link", t]).getD []

/-- The word for a style that changes nothing. -/
def plain : Text := "none"

/-- The text of a style. -/
def text (s : Style) : Text :=
  if s.words.isEmpty then plain else Text.join [32] s.words

/-- The words of a text. -/
def wordsOf : Text → List Text
  | [] => []
  | c :: rest =>
    if CodePoint.isSpace c then wordsOf rest
    else match wordsOf rest with
      | [] => [[c]]
      | word :: more =>
        if rest.head?.any CodePoint.isSpace then [c] :: word :: more else (c :: word) :: more

/-- The normal form of the text of a style. -/
def normal (t : Text) : Except Fault Text :=
  let trimmed := Text.trimBoth CodePoint.isSpace t
  if trimmed = plain then .ok plain
  else return match ← ofWords? (wordsOf t) with
    | some s => s.text
    | none => Text.lower trimmed

end Style

end ToolPolicy
