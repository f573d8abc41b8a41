import ContainerRoster.Text.Width

/-!
# Elastic tab stops

A text set in columns: a tab ends a cell, and the cell is filled with blanks up to the next column.
Cells at the same place of lines that follow each other stand in one column, which is as wide as the
widest of them. A line without a cell at that place ends the column, and below it a new one starts.
What stands behind the last tab of a line is in no column.
-/

namespace ContainerRoster.Text.TabStops

/-- How columns are set: the least width of a cell, and how many blanks follow a cell at least. -/
structure Style where
  minWidth : Nat
  padding : Nat

/-- A line as its cells. -/
abbrev Line := List (List Char)

/-- The line that no newline ends. Behind its last tab there is a cell only if there is text. -/
def unfinished (line : Line) : Line :=
  if line.getLast? = some [] then line.dropLast else line

/-- The lines of a text. -/
def lines (text : List Char) : List Line :=
  let all := (text.splitOn '\n').map fun line => line.splitOn '\t'
  all.dropLast ++ all.getLast?.toList.map unfinished

/-- The width of the column that starts at a place of the first line. -/
def columnWidth (minWidth place : Nat) (lines : List Line) : Nat :=
  let column := lines.takeWhile fun line => place + 1 < line.length
  (column.map fun line => width (line.getD place [])).foldl max minWidth

/-- The width of the column at a place of the first line: it goes on from the line above, or starts
here. -/
def widthAt (minWidth : Nat) (above : List Nat) (lines : List Line) (place : Nat) : Nat :=
  match above[place]? with
  | some w => w
  | none => columnWidth minWidth place lines

/-- The widths of the columns on each line, given those on the line above. -/
def columnWidths (minWidth : Nat) (above : List Nat) : List Line → List (List Nat)
  | [] => []
  | line :: below =>
    let here := (List.range (line.length - 1)).map (widthAt minWidth above (line :: below))
    here :: columnWidths minWidth here below

/-- Set a line in columns of some widths. -/
def fill (padding : Nat) : List Nat → Line → List Char
  | w :: widths, cell :: rest =>
    cell ++ List.replicate (w - width cell + padding) ' ' ++ fill padding widths rest
  | _, rest => rest.flatten

/-- Set a text in columns. -/
def align (style : Style) (text : List Char) : List Char :=
  let lines := lines text
  List.intercalate ['\n']
    (List.zipWith (fill style.padding) (columnWidths style.minWidth [] lines) lines)

end ContainerRoster.Text.TabStops
