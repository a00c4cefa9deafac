import MovePlan.Error

/-!
# What is shown

A command shows lines, tables and panels, in texts with marks of style: `[red]` before a text and
`[/red]` after it. What that looks like is left open: a console is whatever shows them. It may also
fail, since texts from elsewhere stand among the marks and may have some of their own that do not match.
-/

namespace MovePlan.Cli

/-- A column of a table. -/
structure Column where
  header : String
  style : Option String := none
  alignRight : Bool := false

/-- A table with its rows, each with a cell for each column. -/
structure Table where
  title : String
  columns : List Column
  rows : List (List String)

/-- A text in a frame. -/
structure Panel where
  title : String
  text : String
  borderStyle : String

/-- Something to show. -/
inductive Display where
  | line (text : String)
  | table (t : Table)
  | panel (p : Panel)

/-- What shows things: the text that appears. -/
abbrev Console := Display → Except Error String

/-- Whether everything is shown, whatever marks stand in it. -/
def Console.Shows (c : Console) : Prop := ∀ d, ∃ text, c d = .ok text

/-- Shows one thing after the other, each as soon as it can be told what it is. -/
def Console.showEach (c : Console) : List (Except Error Display) → Except Error String
  | [] => .ok ""
  | d :: rest => do
    let shown ← d >>= c
    let later ← showEach c rest
    return shown ++ later

/-- A text in a style. -/
def styled (style text : String) : String := "[" ++ style ++ "]" ++ text ++ "[/" ++ style ++ "]"

end MovePlan.Cli
