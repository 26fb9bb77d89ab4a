import ToolPolicy.Console.Layout

/-!
# Tables

A table has columns with titles and rows of cells, and is drawn with lines around its cells, heavy
ones around the titles. A column takes as many cells as its widest text, or the width it is given.
If that is too much, the widest columns without a width of their own give way, until the table fits.
-/

namespace ToolPolicy

/-- A column of a table. -/
structure Table.Column where
  title : Text
  width : Option Nat := none
  deriving DecidableEq, Repr

/-- A cell of a table. Blanks behind a text that ends in a style of its own do not share the style,
and are measured apart from the text. -/
structure Table.Cell where
  text : Text
  endsStyled : Bool := false
  deriving DecidableEq, Repr

/-- A table of texts. -/
structure Table where
  columns : List Table.Column
  rows : List (List Table.Cell)
  deriving DecidableEq, Repr

namespace Table

/-! ## Lines between cells -/

/-- The parts of a line across a table: its left end, what runs along a cell, what stands between
two cells, and its right end. -/
structure Border where
  left : CodePoint
  along : CodePoint
  between : CodePoint
  right : CodePoint
  deriving DecidableEq, Repr

/-- The line above the titles. -/
def top : Border := ⟨'┏', '━', '┳', '┓'⟩

/-- The lines beside the titles. -/
def beside : Border := ⟨'┃', ' ', '┃', '┃'⟩

/-- The line below the titles. -/
def below : Border := ⟨'┡', '━', '╇', '┩'⟩

/-- The lines beside the cells. -/
def inner : Border := ⟨'│', ' ', '│', '│'⟩

/-- The line below the cells. -/
def bottom : Border := ⟨'└', '─', '┴', '┘'⟩

/-- A line of a row, from the lines of its cells. -/
def Border.line (b : Border) (parts : List Text) : Text :=
  b.left :: Text.join [b.between] parts ++ [b.right]

/-- A rule across columns of some widths. -/
def Border.rule (b : Border) (widths : List Nat) : Text :=
  b.line (widths.map fun w => List.replicate w b.along)

/-! ## Widths of columns -/

/-- The blanks beside the text of a cell. -/
def padding : Nat := 2

/-- The code points at which a text is measured line by line. -/
def lineBreaks : List CodePoint := [10, 11, 12, 13, 28, 29, 30, 0x85, 0x2028, 0x2029]

/-- The cells of the longest line of a text. -/
def naturalWidth (t : Text) : Nat :=
  (Text.splitOn 10 (t.map fun c => if lineBreaks.contains c then 10 else c)).foldl
    (fun width line => max width (Layout.cells line)) 0

/-- The width of a column with some cells, up to a limit. -/
def columnWidth (limit : Nat) (column : Column) (texts : List Text) : Nat :=
  match column.width with
  | some width => min (width + padding) limit
  | none => texts.foldl (fun width t => max width (min (naturalWidth t + padding) limit)) 0

/-- A quotient rounded to the nearest whole number, halves to the even one. -/
def nearest (a b : Nat) : Nat :=
  let q := a / b
  if 2 * (a % b) < b ∨ (2 * (a % b) = b ∧ q % 2 = 0) then q else q + 1

/-- Takes an excess away from the columns that are marked, each giving way by its share of what is
left, but by no more than a bound. -/
def giveWay (bound : Nat) : Nat → List (Nat × Bool) → List Nat
  | _, [] => []
  | excess, (width, isMarked) :: rest =>
    if isMarked then
      let sharers := 1 + (rest.filter (·.2)).length
      let share := min bound (nearest excess sharers)
      (width - share) :: giveWay bound (excess - share) rest
    else width :: giveWay bound excess rest

/-- The largest of some numbers. -/
def largest (l : List Nat) : Nat := l.foldl max 0

/-- One round of shrinking: the widest flexible columns give way, but not below the next ones. -/
def shrinkOnce (excess : Nat) (columns : List (Nat × Bool)) : List (Nat × Bool) :=
  let flexible := (columns.filter (·.2)).map (·.1)
  let widest := largest flexible
  let next := largest (flexible.filter (· ≠ widest))
  let marked := columns.map fun c => (c.1, c.2 && c.1 == widest)
  (giveWay (min excess (widest - next)) excess marked).zip (columns.map (·.2))

/-- The sum of some widths. -/
def sum : List Nat → Nat
  | [] => 0
  | w :: rest => w + sum rest

/-- The sum of the widths of columns. -/
def total (columns : List (Nat × Bool)) : Nat := sum (columns.map (·.1))

/-- Columns, each with whether it is flexible, after some rounds of shrinking to a limit. -/
def shrink (limit : Nat) : Nat → List (Nat × Bool) → List (Nat × Bool)
  | 0, columns => columns
  | rounds + 1, columns =>
    if total columns ≤ limit then columns
    else shrink limit rounds (shrinkOnce (total columns - limit) columns)

/-- The texts of a column. -/
def textsAt (t : Table) (index : Nat) (column : Column) : List Text :=
  column.title :: t.rows.map fun row => ((row[index]?).map Cell.text).getD []

/-- The widths of the columns of a table on a console of some width. -/
def widths (t : Table) (console : Nat) : List Nat :=
  let room := console - (t.columns.length + 1)
  let natural := t.columns.mapIdx fun index column =>
    (columnWidth room column (t.textsAt index column), column.width.isNone)
  (shrink room (t.columns.length + 1) natural).map (·.1)

/-! ## Drawing -/

/-- A line of a cell with blanks behind it. A joiner at the end of the line swallows a blank
that is measured with it. -/
def Cell.padded (width : Nat) (cell : Cell) (line : Text) : Text :=
  let once := Layout.pad width line
  if cell.endsStyled then once else Layout.pad width once

/-- The lines of a cell. -/
def cellLines (width : Nat) (cell : Cell) : List Text :=
  (Layout.wrap .ellipsis (width - padding) cell.text).map fun line =>
    32 :: cell.padded (width - padding) line ++ [32]

/-- The lines of a cell with blank lines below them. -/
def fill (height width : Nat) (lines : List Text) : List Text :=
  lines ++ List.replicate (height - lines.length) (List.replicate width 32)

/-- The lines of a row. -/
def rowLines (b : Border) (widths : List Nat) (row : List Cell) : List Text :=
  let cells := widths.zipWith (fun width cell => (width, cellLines width cell)) row
  let height := largest (cells.map (·.2.length))
  (List.range height).map fun k =>
    b.line (cells.map fun (width, lines) => (fill height width lines).getD k [])

/-- The lines of a table on a console of some width. -/
def lines (t : Table) (console : Nat) : List Text :=
  let widths := t.widths console
  [top.rule widths] ++
  rowLines beside widths (t.columns.map fun c => ⟨c.title, false⟩) ++ [below.rule widths]
    ++ t.rows.flatMap (rowLines inner widths) ++ [bottom.rule widths]

end Table

end ToolPolicy
