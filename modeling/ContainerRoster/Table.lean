import ContainerRoster.Text.TabStops

/-!
# Tables of text

A header and rows with the same number of cells, each on a line with tabs between its cells, set in
columns that are at least twenty wide with the blank between them. Characters that would end the
cell or the line are blanks in a cell.
-/

namespace ContainerRoster.Table

/-- How many blanks stand between columns at least. -/
def padding : Nat := 1

/-- The least width of a column with the blank after it. -/
def minWidth : Nat := 20

def style : Text.TabStops.Style := ⟨minWidth - padding, padding⟩

def cleanChar (c : Char) : Char := if c = '\t' ∨ c = '\n' ∨ c = '\r' then ' ' else c

def clean (cell : String) : List Char := cell.toList.map cleanChar

/-- A line of cells. -/
def line (cells : List (List Char)) : List Char := List.intercalate ['\t'] cells ++ ['\n']

/-- The header and the rows, each on a line. -/
def render (header : List String) (rows : List (List String)) : String :=
  String.ofList (Text.TabStops.align style
    (line (header.map String.toList) ++ rows.flatMap fun row => line (row.map clean)))

end ContainerRoster.Table
