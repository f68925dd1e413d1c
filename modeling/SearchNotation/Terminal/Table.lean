/-!
# Tables in boxes

A table has a line of titles and lines of cells, drawn in a box with a blank on both sides of
every cell. A column is as wide as its widest cell. Every character counts as one place.
-/

set_option autoImplicit false

namespace SearchNotation

/-- A table of texts. -/
structure TextTable where
  titles : List String
  rows : List (List String)

namespace TextTable

/-- The widths of the columns. -/
def widths (table : TextTable) : List Nat :=
  table.rows.foldl (fun widths row => List.zipWith (fun w cell => max w cell.length) widths row)
    (table.titles.map String.length)

/-- A cell filled up with blanks to a width, with one more on both sides. -/
def cell (width : Nat) (text : String) : String :=
  " " ++ text ++ String.ofList (List.replicate (width - text.length) ' ') ++ " "

/-- A line of cells. -/
def row (widths : List Nat) (cells : List String) : String :=
  "│" ++ "┆".intercalate (List.zipWith cell widths cells) ++ "│\n"

/-- A line between or around the rows. -/
def rule (widths : List Nat) (left : String) (line : Char) (crossing right : String) : String :=
  left ++ crossing.intercalate (widths.map fun w => String.ofList (List.replicate (w + 2) line))
    ++ right ++ "\n"

/-- The table as text. -/
def text (table : TextTable) : String :=
  let widths := table.widths
  rule widths "┌" '─' "┬" "┐" ++ row widths table.titles ++ rule widths "╞" '═' "╪" "╡"
    ++ String.join (table.rows.map (row widths)) ++ rule widths "└" '─' "┴" "┘"

end TextTable

end SearchNotation
