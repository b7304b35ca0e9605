import SessionTokens.Text.Width

/-! # Tables

Rows under a header, with lines between and around them. A column is as wide as the widest of its
cells, and a row as high as the highest; cells are filled up on the right and at the bottom.
-/

namespace SessionTokens.Table

/-- The lines of a cell. -/
def cellLines (cell : String) : List String := cell.splitOn "\n"

/-- The width of a cell: that of its widest line. -/
def cellWidth (cell : String) : Nat := ((cellLines cell).map Text.width).foldl max 0

/-- The widths of the columns. Every row has a cell for each column. -/
def columnWidths (rows : List (List String)) : List Nat :=
  rows.foldl (fun ws row => (List.range (max ws.length row.length)).map fun i =>
    max (ws.getD i 0) (cellWidth (row.getD i ""))) []

/-- A text filled up with spaces. -/
def filled (width : Nat) (s : String) : String :=
  s ++ String.ofList (List.replicate (width - Text.width s) ' ')

/-- The line between two rows. -/
def border (widths : List Nat) : String :=
  "+" ++ String.join (widths.map fun w => String.ofList (List.replicate (w + 2) '-') ++ "+")

/-- One of the lines of a row. -/
def rowLine (widths : List Nat) (row : List String) (i : Nat) : String :=
  "|" ++ String.join ((widths.zip row).map fun c =>
    " " ++ filled c.1 ((cellLines c.2).getD i "") ++ " |")

/-- The lines of a row. -/
def rowLines (widths : List Nat) (row : List String) : List String :=
  let height := (row.map fun cell => (cellLines cell).length).foldl max 0
  (List.range height).map (rowLine widths row)

/-- The lines of a table. -/
def lines (rows : List (List String)) : List String :=
  let widths := columnWidths rows
  border widths :: rows.flatMap fun row => rowLines widths row ++ [border widths]

/-- The text of a table with the given header. -/
def render (header : List String) (rows : List (List String)) : String :=
  "\n".intercalate (lines (header :: rows))

end SessionTokens.Table
