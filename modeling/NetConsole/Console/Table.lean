import NetConsole.Text.Width

/-!
# Tables

Rows of cells under a header, drawn with lines that have round corners. A column is as wide as the
widest line in it, a row as high as its cell with the most lines; there is a line under the header
and none between rows.
-/

set_option autoImplicit false

namespace NetConsole.Console

open Text

/-- A cell as its lines. -/
abbrev Cell := List (List Char)

def cell (s : String) : Cell := lines s.toList

def cellWidth (c : Cell) : Nat := (c.map width).foldl max 0

/-- The widths of columns, from those of the rows above and one more row. -/
def widen (widths : List Nat) (row : List Cell) : List Nat :=
  (widths.zip row).map fun (w, c) => max w (cellWidth c)

/-- A line of a cell filled up to a width, with a blank on either side. -/
def padded (columns : Nat) (line : List Char) : List Char :=
  ' ' :: (line ++ List.replicate (columns - width line) ' ' ++ [' '])

/-- A line across the table: its left end, its right end, and the crossing of columns. -/
def rule (left crossing right : Char) (widths : List Nat) : List Char :=
  left :: ([crossing].intercalate (widths.map fun w => List.replicate (w + 2) '─') ++ [right])

/-- One line of a row: the line with a number of every cell. -/
def rowLine (widths : List Nat) (row : List Cell) (number : Nat) : List Char :=
  let parts := (widths.zip row).map fun (w, c) => padded w (c.getD number [])
  '│' :: (['│'].intercalate parts ++ ['│'])

def rowLines (widths : List Nat) (row : List Cell) : List (List Char) :=
  (List.range ((row.map List.length).foldl max 1)).map (rowLine widths row)

/-- The lines of a table. Without rows the table ends with the line under its header. -/
def tableLines (header : List String) (rows : List (List String)) : List (List Char) :=
  let header := header.map cell
  let rows := rows.map fun row => row.map cell
  let widths := (header :: rows).foldl widen (header.map fun _ => 0)
  [rule '╭' '┬' '╮' widths] ++ rowLines widths header ++ [rule '├' '┼' '┤' widths] ++
    rows.flatMap (rowLines widths) ++
    (if rows.isEmpty then [] else [rule '╰' '┴' '╯' widths])

def table (header : List String) (rows : List (List String)) : String :=
  String.ofList (['\n'].intercalate (tableLines header rows))

end NetConsole.Console
