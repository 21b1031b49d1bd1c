import SchemaDiagram.Console.Message
import SchemaDiagram.Number.Rounding
import SchemaDiagram.Text.Lines

/-! # Columns of text

Cells stand in columns as wide as their widest cell, with a gap between the columns. Columns too
wide for the console are made narrower, the widest ones first. The words of a cell that does not
fit are broken into lines; a longer word ends in an ellipsis.

* **`narrowed`** — the widths of columns that together fit on the console.
* **`tableLines`** — the lines of a table of cells. -/

namespace SchemaDiagram

/-- On which side a column is aligned. -/
inductive Alignment where
  | left
  | right
deriving DecidableEq, Repr

/-- A line cut to a width, with an ellipsis where something is left out. -/
def cutLine (width : Nat) (line : Text) : Text :=
  if line.cells ≤ width then line else Text.fitCells (width - 1) line ++ ['…']

/-- A line filled up to a width. -/
def Alignment.fill (a : Alignment) (width : Nat) (line : Text) : Text :=
  match a with
  | left => Text.fitCells width (cutLine width line)
  | right =>
    let line := cutLine width (Text.trimRight line)
    List.replicate (width - line.cells) ' ' ++ line

/-! ## Widths -/

/-- The space on each side of a column, except at the edges of the table. -/
def columnSpace : Nat := 2

/-- The space before and behind a column. -/
def spaceAround (columns index : Nat) : Nat × Nat :=
  (if index = 0 then 0 else columnSpace, if index + 1 = columns then 0 else columnSpace)

/-- The cells of the widest line of a text. -/
def widestLine (s : Text) : Nat := ((Text.lines s).map Text.cells).foldl max 0

/-- The width of all columns together. -/
def totalWidth (widths : List Nat) : Nat := widths.foldl (· + ·) 0

/-- Takes cells from the widest columns, in shares as equal as whole numbers allow, where `total`
cells are to go and no column gives more than `most`. -/
def takeShares (widest most : Nat) : (sharers total : Nat) → List Nat → List Nat
  | _, _, [] => []
  | sharers, total, width :: widths =>
    if width = widest ∧ 0 < sharers then
      let share := min most (divNearest total sharers)
      (width - share) :: takeShares widest most (sharers - 1) (total - share) widths
    else width :: takeShares widest most sharers total widths

/-- Makes the widest columns narrower until all fit, at most to the width of the next ones each
time. -/
def narrowedWithin (room : Nat) : (fuel : Nat) → List Nat → List Nat
  | 0, widths => widths
  | fuel + 1, widths =>
    let excess := totalWidth widths - room
    let widest := widths.foldl max 0
    let next := (widths.filter (· ≠ widest)).foldl max 0
    if excess = 0 ∨ widest = next then widths
    else
      narrowedWithin room fuel <|
        takeShares widest (min excess (widest - next)) (widths.count widest) excess widths

/-- The widths of columns that fit into some room together. -/
def narrowed (room : Nat) (widths : List Nat) : List Nat :=
  narrowedWithin room (totalWidth widths) widths

/-! ## Lines -/

/-- A cell with the width of its column and the space around it. -/
structure TableCell where
  /-- The text of the cell. -/
  text : Text
  /-- The side on which it is aligned. -/
  alignment : Alignment
  /-- The width with the space around the cell. -/
  width : Nat
  /-- The space before it and behind it. -/
  space : Nat × Nat

namespace TableCell

/-- The width without the space around the cell. -/
def inner (c : TableCell) : Nat := c.width - c.space.1 - c.space.2

/-- The lines of a cell. -/
def lines (c : TableCell) : List Text :=
  (brokenLines .kept c.inner c.text).map (c.alignment.fill c.inner)

/-- The line of a cell with the given number, with the space around it. -/
def line (c : TableCell) (index : Nat) : Text :=
  concat [List.replicate c.space.1 ' ',
    (c.lines[index]?).getD (List.replicate c.inner ' '), List.replicate c.space.2 ' ']

end TableCell

/-- The lines of a row. -/
def rowLines (cells : List TableCell) : List Text :=
  let height := (cells.map fun c => c.lines.length).foldl max 1
  (List.range height).map fun index => (cells.map (·.line index)).flatten

/-- The widths of columns with the space around them. -/
def columnWidths (columns : Nat) (rows : List (List Text)) : List Nat :=
  (List.range columns).map fun n =>
    let (before, behind) := spaceAround columns n
    min consoleWidth (((rows.filterMap (·[n]?)).map widestLine).foldl max 0 + before + behind)

/-- The lines of a table of cells. -/
def tableLines (alignments : List Alignment) (rows : List (List Text)) : List Text :=
  let columns := alignments.length
  let widths := narrowed consoleWidth (columnWidths columns rows)
  rows.flatMap fun row =>
    rowLines <| (((alignments.zip widths).zip row).zipIdx).map fun (((a, width), text), n) =>
      ⟨text, a, width, spaceAround columns n⟩

end SchemaDiagram
