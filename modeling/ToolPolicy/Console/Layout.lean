import ToolPolicy.Console.Cells

/-!
# Lines of a width

Text on the console is broken into lines of a number of cells. A line is broken between words, with
the white space behind a word kept beside it. A word that is longer than a line is folded into
pieces, or keeps a line of its own that is cut short with an ellipsis. White space that does not fit
at the end of a line is dropped.
-/

namespace ToolPolicy.Layout

/-! ## Tabs -/

/-- The distance of tab stops. -/
def tabStop : Nat := 8

/-- The parts of a text between tabs, the first of which begins in some column, with blanks in place
of the tabs: one, and as many as are missing to the next stop. -/
def untabFrom (column : Nat) : List Text → Text
  | [] => []
  | [last] => last
  | part :: rest =>
    let next := column + cells (part ++ [32])
    let missing := (tabStop - next % tabStop) % tabStop
    part ++ 32 :: List.replicate missing 32 ++ untabFrom (next + missing) rest

/-- A text with blanks in place of tabs. -/
def expandTabs (t : Text) : Text := untabFrom 0 (Text.splitOn 9 t)

/-! ## Words -/

/-- Whether a text begins with a code point that is no white space. -/
def beginsWord (t : Text) : Bool := t.head?.any fun c => !CodePoint.isSpace c

/-- Cuts a text in front of every code point that follows white space and is none. -/
def runs : Text → List Text
  | [] => []
  | c :: rest =>
    match runs rest with
    | [] => [[c]]
    | word :: more =>
      if CodePoint.isSpace c && beginsWord word then [c] :: word :: more else (c :: word) :: more

/-- Puts white space at the beginning of a text together with the first word. -/
def joinLead : List Text → List Text
  | first :: second :: more =>
    if first.all CodePoint.isSpace then (first ++ second) :: more else first :: second :: more
  | l => l

/-- The words of a text, each with the white space behind it. -/
def words (t : Text) : List Text := joinLead (runs t)

/-- A word without the white space behind it. -/
def bare (word : Text) : Text := (word.reverse.dropWhile CodePoint.isSpace).reverse

/-- The pieces of some clusters, no piece wider than a line, after what is on the line already. -/
def chopFrom (width : Nat) (line : Text) (used : Nat) : List Cluster → List Text
  | [] => [line]
  | k :: rest =>
    if used + k.cells > width then line :: chopFrom width k.text k.cells rest
    else chopFrom width (line ++ k.text) (used + k.cells) rest

/-- The pieces of a word that is longer than a line. -/
def chop (width : Nat) (word : Text) : List Text := chopFrom width [] 0 (clusters word)

/-! ## Lines -/

/-- What becomes of a word that is longer than a line. -/
inductive Overflow where
  /-- It goes on in the next line. -/
  | fold
  /-- Its line is cut short. -/
  | ellipsis
  deriving DecidableEq, Repr

/-- The pieces of a word, each of which begins a line. -/
def Overflow.pieces (o : Overflow) (width : Nat) (word : Text) : List Text :=
  match o with
  | fold => chop width word
  | ellipsis => [word]

/-- The lines that are finished, and the line that is being filled with the
cells of the words in it. -/
structure Lines where
  done : List Text := []
  current : Text := []
  used : Nat := 0
  deriving DecidableEq, Repr

namespace Lines

/-- Starts a new line with a text, unless the line is still empty. -/
def start (l : Lines) (t : Text) : Lines :=
  if l.current.isEmpty then ⟨l.done, t, cells t⟩ else ⟨l.done ++ [l.current], t, cells t⟩

/-- Adds a word. -/
def add (o : Overflow) (width : Nat) (l : Lines) (word : Text) : Lines :=
  if l.used + cells (bare word) ≤ width then
    { l with current := l.current ++ word, used := l.used + cells word }
  else if cells (bare word) > width then (o.pieces width word).foldl start l
  else l.start word

/-- All lines. -/
def all (l : Lines) : List Text := l.done ++ [l.current]

end Lines

/-- The lines of a text without line feeds. -/
def breakLines (o : Overflow) (width : Nat) (t : Text) : List Text :=
  ((words t).foldl (Lines.add o width) {}).all

/-- A line without the white space at its end that stands beyond a number of code points. -/
def dropBeyond (width : Nat) (line : Text) : Text :=
  line.take (line.length - min (line.length - (bare line).length) (line.length - width))

/-- As many clusters as fit, with a blank for half of a wide one. -/
def fitting (width : Nat) : List Cluster → Text
  | [] => []
  | k :: rest =>
    if k.cells ≤ width then k.text ++ fitting (width - k.cells) rest else List.replicate width 32

/-- As much of a text as fits. -/
def crop (width : Nat) (t : Text) : Text := fitting width (clusters t)

/-- As much of a text as leaves a cell for an ellipsis, and the ellipsis. -/
def abridge (width : Nat) (t : Text) : Text := crop (width - 1) t ++ ['…'.toNat]

/-- A line as it is shown. -/
def fit (o : Overflow) (width : Nat) (line : Text) : Text :=
  let line := dropBeyond width line
  if cells line > width then
    match o with
    | .fold => crop width line
    | .ellipsis => abridge width line
  else line

/-- The lines of a text as they are shown. -/
def wrap (o : Overflow) (width : Nat) (t : Text) : List Text :=
  (Text.splitOn 10 t).flatMap fun line => (breakLines o width (expandTabs line)).map (fit o width)

end ToolPolicy.Layout
