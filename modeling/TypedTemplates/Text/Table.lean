import TypedTemplates.Text.Split
import TypedTemplates.Text.Width

/-!
# Tables of text

`table` draws rows of cells with a rounded frame. Each column is as wide as its widest line, a cell of several lines
makes its row as high, and a blank stands on either side of every cell. A line is drawn under the first row.
-/

namespace TypedTemplates.Text

/-- A cell as its lines. -/
abbrev Cell := List (List Char)

def Cell.ofString (s : String) : Cell :=
  splitOn '\n' s.toList

def Cell.width (cell : Cell) : Nat :=
  (cell.map lineWidth).foldl max 0

/-- The widths that the columns need. -/
def columnWidths : List (List Cell) → List Nat
  | [] => []
  | [row] => row.map Cell.width
  | row :: rows => List.zipWith max (row.map Cell.width) (columnWidths rows)

/-- A line followed by as many blanks as the width leaves room for. -/
def padded (width : Nat) (line : List Char) : List Char :=
  line ++ List.replicate (width - lineWidth line) ' '

/-- A horizontal line with these corners, and these crossings between the columns. -/
def rule (left crossing right : Char) (widths : List Nat) : List Char :=
  left :: [crossing].intercalate (widths.map fun width => List.replicate (width + 2) '─') ++ [right]

/-- One line of a row. A cell that has no such line is blank there. -/
def rowLine (widths : List Nat) (row : List Cell) (index : Nat) : List Char :=
  '│' :: ['│'].intercalate (List.zipWith (fun width cell => ' ' :: padded width (cell[index]?.getD []) ++ [' '])
    widths row) ++ ['│']

def rowLines (widths : List Nat) (row : List Cell) : List (List Char) :=
  (List.range ((row.map List.length).foldl max 0)).map (rowLine widths row)

/-- The lines of a table. -/
def tableLines (head : List Cell) (rows : List (List Cell)) : List (List Char) :=
  let widths := columnWidths (head :: rows)
  rule '╭' '┬' '╮' widths :: rowLines widths head ++ rule '├' '┼' '┤' widths ::
    rows.flatMap (rowLines widths) ++ [rule '╰' '┴' '╯' widths]

/-- A table with its first row and the others. -/
def table (head : List String) (rows : List (List String)) : String :=
  "\n".intercalate ((tableLines (head.map Cell.ofString) (rows.map (·.map Cell.ofString))).map String.ofList)

end TypedTemplates.Text
