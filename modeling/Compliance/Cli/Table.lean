import Compliance.Text.Width

/-!
Tables with a heading, drawn with lines. Columns are as wide as their content, with a space on
both sides, and a line feed in a cell starts a new line in its row.
-/

namespace Compliance

structure Table where
  heading : List String
  rows : List (List String)

namespace Table

/-- A horizontal rule: its ends, what it is drawn with, and where it meets a column's border. -/
structure Rule where
  first : Char
  line : Char
  crossing : Char
  last : Char

def top : Rule := ⟨'┌', '─', '┬', '┐'⟩

def belowHeading : Rule := ⟨'╞', '═', '╪', '╡'⟩

def between : Rule := ⟨'├', '╌', '┼', '┤'⟩

def bottom : Rule := ⟨'└', '─', '┴', '┘'⟩

def cellLines (cell : String) : List String := cell.splitOn "\n"

def cellWidth (cell : String) : Nat :=
  ((cellLines cell).map fun line => Text.width line.toList).foldl max 0

def widths (table : Table) : List Nat :=
  table.rows.foldl (fun widths row => List.zipWith max widths (row.map cellWidth))
    (table.heading.map cellWidth)

def drawRule (rule : Rule) (widths : List Nat) : String :=
  let segments := widths.map fun width => String.ofList (List.replicate (width + 2) rule.line)
  rule.first.toString ++ rule.crossing.toString.intercalate segments ++ rule.last.toString

def fill (width : Nat) (line : String) : String :=
  " " ++ line ++ String.ofList (List.replicate (width - Text.width line.toList + 1) ' ')

def drawLine (widths : List Nat) (lines : List String) : String :=
  "│" ++ "┆".intercalate (List.zipWith fill widths lines) ++ "│"

def drawRow (widths : List Nat) (row : List String) : List String :=
  let cells := row.map cellLines
  let height := (cells.map List.length).foldl max 0
  (List.range height).map fun index => drawLine widths (cells.map fun cell => cell.getD index "")

def drawRows (widths : List Nat) (rows : List (List String)) : List String :=
  [drawRule between widths].intercalate (rows.map (drawRow widths))

def draw (table : Table) : String :=
  let widths := table.widths
  "\n".intercalate ([drawRule top widths] ++ drawRow widths table.heading ++
    [drawRule belowHeading widths] ++ drawRows widths table.rows ++ [drawRule bottom widths])

end Table

end Compliance
