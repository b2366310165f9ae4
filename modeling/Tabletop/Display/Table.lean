import Tabletop.Display.Console
import Tabletop.Number.Rounding

/-!
# Tables

A table has three columns: a number to the right, which never goes over several lines, and two texts
to the left, which do. A column is as wide as its widest cell. Where the table would be too wide,
the wider of the two texts is made narrower until both are equally wide, then both by halves, and
only when nothing is left of them the number (`Widths.fitted`). A blank stands on each side of the
inner lines; what does not fit into a cell is cut, and three dots stand for the rest.
-/

set_option autoImplicit false

namespace Tabletop.Display

open Text (columns wrap)

/-- A row of cells: a number, and two texts. -/
structure Row where
  number : String
  first : String
  second : String
  deriving DecidableEq, Repr

/-- The titles of the columns. -/
def titles : Row :=
  ⟨"Line", "Command", "Reason"⟩

/-- How the cells of a column are shown: the blanks before and after them, and whether they stand to
the right on one line. -/
structure CellFormat where
  left : Nat
  right : Nat
  isNumber : Bool

/-- The blanks of a cell. -/
def CellFormat.padding (format : CellFormat) : Nat :=
  format.left + format.right

/-- Numbers stand to the right, with a blank after them. -/
def numberFormat : CellFormat :=
  ⟨0, 1, true⟩

/-- The first texts stand between two blanks. -/
def firstFormat : CellFormat :=
  ⟨1, 1, false⟩

/-- The second texts have a blank before them. -/
def secondFormat : CellFormat :=
  ⟨1, 0, false⟩

/-- The columns that the lines of a table take: one before each column and one at the end. -/
def frameWidth : Nat := 4

/-- The widths of the columns. -/
structure Widths where
  number : Nat
  first : Nat
  second : Nat
  deriving DecidableEq, Repr

namespace Widths

/-- The width of all columns together. -/
def total (widths : Widths) : Nat :=
  widths.number + widths.first + widths.second

/-- The wider text made narrower by some columns, but not narrower than the other. -/
def levelled (excess : Nat) (widths : Widths) : Widths :=
  { widths with
    first := widths.first - min excess (widths.first - widths.second)
    second := widths.second - min excess (widths.second - widths.first) }

/-- Both texts made narrower by half of some columns. -/
def halved (excess : Nat) (widths : Widths) : Widths :=
  let part := min widths.first (roundDiv excess 2)
  { widths with
    first := widths.first - part
    second := widths.second - min widths.second (excess - part) }

/-- The widths of columns that take no more than `limit` together. -/
def fitted (limit : Nat) (widths : Widths) : Widths :=
  let level := widths.levelled (widths.total - limit)
  let half := level.halved (level.total - limit)
  { half with number := min half.number (limit - (half.first + half.second)) }

/-- Half of the columns that are too many, rounded either way, differs from the other half by at
most one. -/
theorem roundDiv_two_bounds (excess : Nat) :
    excess ≤ 2 * roundDiv excess 2 + 1 ∧ 2 * roundDiv excess 2 ≤ excess + 1 := by
  unfold roundDiv
  dsimp only
  repeat' split
  all_goals omega

/-- After the wider text gave way the columns fit, or both texts are equally wide. -/
theorem levelled_fits_or_equal (limit : Nat) (widths : Widths) :
    (widths.levelled (widths.total - limit)).total ≤ limit ∨
      (widths.levelled (widths.total - limit)).first =
        (widths.levelled (widths.total - limit)).second := by
  simp only [levelled, total]
  omega

/-- Of two texts equally wide, halving takes all that is too much, or leaves nothing. -/
theorem halved_of_equal (excess number width : Nat) :
    ((Widths.mk number width width).halved excess).total + excess = number + 2 * width ∨
      (((Widths.mk number width width).halved excess).first = 0 ∧
        ((Widths.mk number width width).halved excess).second = 0) := by
  have bounds := roundDiv_two_bounds excess
  simp only [halved, total]
  omega

end Widths

/-- A character that ends a line where the width of a text is measured. -/
def endsLine (c : Char) : Bool :=
  let n := c.toNat
  (0x0A ≤ n && n ≤ 0x0D) || (0x1C ≤ n && n ≤ 0x1E) || n = 0x85 || n = 0x2028 || n = 0x2029

/-- The columns of the widest line of a text. -/
def widestLine (cs : List Char) : Nat :=
  ((cs.splitOnP endsLine).map columns).foldl max 0

/-- How wide a cell wants to be, where its column may be no wider than `limit`. -/
def CellFormat.naturalWidth [Text.EmojiTable] (format : CellFormat) (limit : Nat)
    (cell : String) : Nat :=
  if limit ≤ format.padding then limit
  else min limit (widestLine (plain cell) + format.padding)

/-- How wide the columns want to be, where each has a limit. -/
def naturalWidths [Text.EmojiTable] (limits : Widths) (rows : List Row) : Widths where
  number := (rows.map fun row => numberFormat.naturalWidth limits.number row.number).foldl max 0
  first := (rows.map fun row => firstFormat.naturalWidth limits.first row.first).foldl max 0
  second := (rows.map fun row => secondFormat.naturalWidth limits.second row.second).foldl max 0

/-- How wide the columns of some rows are, where a table may be no wider than `limit`. -/
def columnWidths [Text.EmojiTable] (limit : Nat) (rows : List Row) : Widths :=
  let room := limit - frameWidth
  let widths := naturalWidths ⟨room, room, room⟩ rows
  if widths.total ≤ room then widths else naturalWidths (widths.fitted room) rows

/-- A line with blanks after it, up to a width. -/
def padRight (width : Nat) (line : List Char) : List Char :=
  line ++ List.replicate (width - columns line) ' '

/-- A line of a text with blanks after it, up to a width, and one more where a joiner at the end of
the line takes the first of them. -/
def fillRight (width : Nat) (line : List Char) : List Char :=
  padRight width (padRight width line)

/-- A line with blanks before it, up to a width. -/
def padLeft (width : Nat) (line : List Char) : List Char :=
  List.replicate (width - columns line) ' ' ++ line

/-- A number on one line, to the right, without blanks at its end. -/
def numberLine (width : Nat) (line : List Char) : List Char :=
  padLeft width <| Text.truncate width .ellipsis <|
    Text.dropEndWhile Text.isBlank (Text.dropExcess width line)

/-- The lines of a cell. A column that has room for nothing but its blanks shows no lines. -/
def CellFormat.lines [Text.EmojiTable] (format : CellFormat) (width : Nat) (cell : String) :
    List (List Char) :=
  let inner := width - format.padding
  if inner = 0 then []
  else
    let shown :=
      if format.isNumber then (Text.parts (plain cell)).map (numberLine inner)
      else (wrap inner .ellipsis (plain cell)).map (fillRight inner)
    shown.map fun line =>
      List.replicate format.left ' ' ++ line ++ List.replicate format.right ' '

/-- The characters of a line of a table: at its start, between its columns, and at its end. -/
structure Border where
  start : Char
  between : Char
  stop : Char

/-- One line of a table. -/
def Border.line (border : Border) (number first second : List Char) : List Char :=
  border.start :: number ++ border.between :: first ++ border.between :: second ++ [border.stop]

/-- A line of a table that parts two rows. -/
def Border.rule (border : Border) (stroke : Char) (widths : Widths) : List Char :=
  border.line (List.replicate widths.number stroke) (List.replicate widths.first stroke)
    (List.replicate widths.second stroke)

/-- The lines of a row: as many as its highest cell has, and at least one. -/
def Border.rowLines [Text.EmojiTable] (border : Border) (widths : Widths) (row : Row) :
    List (List Char) :=
  let number := numberFormat.lines widths.number row.number
  let first := firstFormat.lines widths.first row.first
  let second := secondFormat.lines widths.second row.second
  let height := max 1 (max number.length (max first.length second.length))
  let line (lines : List (List Char)) (width : Nat) (i : Nat) : List Char :=
    lines[i]?.getD (List.replicate width ' ')
  (List.range height).map fun i =>
    border.line (line number widths.number i) (line first widths.first i)
      (line second widths.second i)

/-- The lines of a table that may be no wider than `limit`. -/
def tableLines [Text.EmojiTable] (limit : Nat) (rows : List Row) : List (List Char) :=
  let widths := columnWidths limit (titles :: rows)
  [(Border.mk '┏' '┳' '┓').rule '━' widths]
    ++ (Border.mk '┃' '┃' '┃').rowLines widths titles
    ++ [(Border.mk '┡' '╇' '┩').rule '━' widths]
    ++ rows.flatMap ((Border.mk '│' '│' '│').rowLines widths)
    ++ [(Border.mk '└' '┴' '┘').rule '─' widths]

end Tabletop.Display
