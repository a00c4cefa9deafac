import MovePlan.Cli.Display
import MovePlan.Host.Line

/-!
# Tables

A table whose texts have no marks: a title over it, a header between heavy lines and rows between light
ones. Each column is as wide as its widest cell, with a blank on both sides; a row is as high as its
highest cell.
-/

namespace MovePlan.Host.Table

open Text Cli

/-- The widths of the columns, headers and cells taken together. -/
def widths (t : Table) : List Nat :=
  t.columns.mapIdx fun i column =>
    (t.rows.map fun row => measured ((row[i]?).getD "").toList).foldl max
      (measured column.header.toList)

/-- The lines of a cell. -/
def cellLines (columns : Nat) (cell : String) : List (List Char) := fitted columns .cut cell.toList

/-- A rule: its left end, its line, its joints and its right end. -/
def rule (left line joint right : Char) (widths : List Nat) : List Char :=
  let parts := widths.map fun w => List.replicate (w + 2) line
  left :: List.intercalate [joint] parts ++ [right]

/-- One line of a row between walls. -/
def rowLine (wall : Char) (columns : List Column) (widths : List Nat) (texts : List (List Char)) :
    List Char :=
  let cell (c : Column) (w : Nat) (s : List Char) : List Char :=
    ' ' :: (if c.alignRight then padLeft w (dropWhileEnd isBlank s) else padRight w s) ++ [' ', wall]
  wall :: (List.zipWith (fun c ws => cell c ws.1 ws.2) columns (widths.zip texts)).flatten

/-- A row between walls, as many lines as its highest cell has. -/
def rowLines (wall : Char) (columns : List Column) (widths : List Nat) (row : List String) :
    List (List Char) :=
  let cells := List.zipWith cellLines widths row
  let height := (cells.map List.length).foldl max 1
  (List.range height).map fun i =>
    rowLine wall columns widths (cells.map fun lines => (lines[i]?).getD [])

/-- The title in the middle over a number of columns. -/
def titleLines (columns : Nat) (title : String) : List (List Char) :=
  (fitted columns .folded title.toList).map fun line =>
    let s := dropWhileEnd isBlank line
    List.replicate ((columns - width s) / 2) ' ' ++ s

/-- The table line by line. -/
def render (t : Table) : List (List Char) :=
  let widths := widths t
  let top := rule '┏' '━' '┳' '┓' widths
  titleLines (width top) t.title ++ top
    :: rowLines '┃' t.columns widths (t.columns.map Column.header)
    ++ rule '┡' '━' '╇' '┩' widths
    :: t.rows.flatMap (rowLines '│' t.columns widths)
    ++ [rule '└' '─' '┴' '┘' widths]

end MovePlan.Host.Table
