import PaymentAllocation.Folder
import PaymentAllocation.Text.Width

/-!
# Tables of text

A `Table` is drawn with thin lines and round corners, a line under its heading and none between
its rows. Each column is as wide as its widest line, cells begin at the left with a blank on both
sides, and a row is as high as its highest cell.
-/

namespace PaymentAllocation

/-- Rows under a heading, each with one cell for each column. -/
structure Table where
  heading : List String
  rows : List (List String)

namespace Table

/-- The lines of a cell. -/
def lines (cell : String) : List (List Char) := Folder.pieces '\n' cell.toList

/-- The widths of the columns. -/
def columnWidths (table : Table) : List Nat :=
  table.heading.zipIdx.map fun (_, column) =>
    ((table.heading :: table.rows).flatMap fun row =>
      (lines (row.getD column "")).map Text.width).foldl max 0

/-- A line between rows: where it begins, between columns, and where it ends. -/
def rule (first between last : Char) (widths : List Nat) : List Char :=
  first :: [between].intercalate (widths.map fun width => List.replicate (width + 2) '─') ++
    [last]

/-- A line of a cell, filled up to the width of its column. -/
def fill (width : Nat) (line : List Char) : List Char :=
  ' ' :: line ++ List.replicate (width - Text.width line) ' ' ++ [' ']

/-- The lines of a row. -/
def rowLines (widths : List Nat) (row : List String) : List (List Char) :=
  let cells := row.map lines
  (List.range ((cells.map List.length).foldl max 1)).map fun place =>
    '│' :: ['│'].intercalate
      ((widths.zip cells).map fun (width, cell) => fill width (cell.getD place [])) ++ ['│']

/-- The table as text, without a line break at its end. -/
def render (table : Table) : String :=
  let widths := table.columnWidths
  let text := [rule '╭' '┬' '╮' widths] ++ rowLines widths table.heading ++
    [rule '├' '┼' '┤' widths] ++ table.rows.flatMap (rowLines widths) ++
    [rule '╰' '┴' '╯' widths]
  String.ofList (['\n'].intercalate text)

end Table

end PaymentAllocation
