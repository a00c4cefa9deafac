import MovePlan.Cli.Display
import MovePlan.Host.Line

/-!
# Panels

A panel is a text in a frame with round corners, with a title in the middle of the upper side. The
frame is as wide as the text or the title needs.
-/

namespace MovePlan.Host.Panel

open Text Cli

/-- A text in the middle of a line; the left part is the shorter one. -/
def centred (line : Char) (columns : Nat) (s : List Char) : List Char :=
  let left := (columns - width s) / 2
  List.replicate left line ++ s ++ List.replicate (columns - width s - left) line

/-- The panel line by line. -/
def render (p : Panel) : List (List Char) :=
  let title := ' ' :: visible p.title.toList ++ [' ']
  let inner := max (measured p.text.toList) (width title)
  let top := '╭' :: '─' :: centred '─' inner title ++ ['─', '╮']
  let rows := (fitted inner .folded p.text.toList).map fun s =>
    '│' :: ' ' :: padRight inner s ++ [' ', '│']
  top :: rows ++ ['╰' :: List.replicate (inner + 2) '─' ++ ['╯']]

end MovePlan.Host.Panel
