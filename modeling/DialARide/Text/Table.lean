import DialARide.Text.Width

/-!
# Tables

A table in box drawing characters: solid outer lines, a double line under the header, dashed lines
between the rows. Each column is as wide as its widest cell, with a blank on both sides; text is
aligned to the left. A cell of several lines makes its row as high.
-/

namespace DialARide.Text

namespace Table

/-- The characters of a horizontal line: its left end, its stroke, its crossings, its right end. -/
structure Rule where
  left : String
  stroke : Char
  cross : String
  right : String

/-- The line above the header. -/
def topRule : Rule := ⟨"┌", '─', "┬", "┐"⟩

/-- The line under the header. -/
def headerRule : Rule := ⟨"╞", '═', "╪", "╡"⟩

/-- The line between two rows. -/
def rowRule : Rule := ⟨"├", '╌', "┼", "┤"⟩

/-- The line under the table. -/
def bottomRule : Rule := ⟨"└", '─', "┴", "┘"⟩

/-- A horizontal line over columns of the given widths. -/
def Rule.draw (rule : Rule) (widths : List Nat) : String :=
  let segments := widths.map fun w => "".pushn rule.stroke (w + 2)
  rule.left ++ rule.cross.intercalate segments ++ rule.right

/-- The lines of a cell. -/
def cellLines (cell : String) : List String := cell.splitOn "\n"

/-- One line of a cell, filled up to the width of its column. -/
def fill (columnWidth : Nat) (line : String) : String :=
  " " ++ line ++ "".pushn ' ' (columnWidth - width line) ++ " "

/-- The lines of a row. -/
def rowLines (widths : List Nat) (row : List String) : List String :=
  let cells := row.map cellLines
  let height := (cells.map List.length).foldl max 1
  (List.range height).map fun k =>
    let line := (widths.zip cells).map fun (w, lines) => fill w (lines.getD k "")
    "│" ++ "┆".intercalate line ++ "│"

/-- Width of each column: that of its widest line. -/
def columnWidths (header : List String) (rows : List (List String)) : List Nat :=
  header.mapIdx fun column title =>
    let cells := title :: rows.map (·.getD column "")
    ((cells.flatMap cellLines).map width).foldl max 0

/-- The rows with a line between any two of them. -/
def separated (widths : List Nat) (rows : List (List String)) : List String :=
  ((rows.map (rowLines widths)).intersperse [rowRule.draw widths]).flatten

/-- A table with a header. -/
def render (header : List String) (rows : List (List String)) : String :=
  let widths := columnWidths header rows
  "\n".intercalate
    ([topRule.draw widths] ++ rowLines widths header ++ [headerRule.draw widths]
      ++ separated widths rows ++ [bottomRule.draw widths])

end Table

end DialARide.Text
