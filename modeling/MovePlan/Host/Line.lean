import MovePlan.Host.Width
import MovePlan.Text.Blank
import MovePlan.Text.Lines

/-!
# Lines on a terminal

A text is shown line by line, without the control characters that would move the cursor about, with
tabs filled up to the next multiple of eight columns and without blanks at the ends of lines. A line
that is too wide is broken between words.
-/

namespace MovePlan.Host

open Text

/-- The characters that are never shown: bell, backspace, vertical tab, form feed and carriage
return. -/
def hidden : List Char := ['\x07', '\x08', '\x0b', '\x0c', '\x0d']

/-- A text without the characters that are never shown. -/
def visible (s : List Char) : List Char := s.filter fun c => !hidden.contains c

/-- The lines between line feeds; at least one. -/
def lines : List Char → List (List Char)
  | [] => [[]]
  | c :: rest =>
    match lines rest with
    | [] => [[c]]
    | line :: later => if c = '\n' then [] :: line :: later else (c :: line) :: later

/-! ## Tabs -/

/-- The distance of tab stops. -/
def tabStop : Nat := 8

/-- A line with blanks instead of tabs. `part` is what stands since the last tab, backward, and
`column` where it begins. -/
def fillTabs (column : Nat) (part : List Char) : List Char → List Char
  | [] => part.reverse
  | c :: rest =>
    if c = '\t' then
      let part := (' ' :: part).reverse
      let reached := column + width part
      let missing := (tabStop - reached % tabStop) % tabStop
      part ++ List.replicate missing ' ' ++ fillTabs (reached + missing) [] rest
    else fillTabs column (c :: part) rest

/-! ## Breaking lines -/

/-- What becomes of a word that is too wide for a line: it goes on on the next one, or it is cut off. -/
inductive Overlong where
  | folded
  | cut
  deriving DecidableEq, Repr

/-- The words of a line, each with the blanks behind it, the first one also with those before it.
`word` is the word begun, backward, and `solid` and `ended` tell whether it has more than blanks and
whether blanks follow that. -/
def wordsAfter (word : List Char) (solid ended : Bool) : List Char → List (List Char)
  | [] => if solid then [word.reverse] else []
  | c :: rest =>
    if isBlank c then wordsAfter (c :: word) solid solid rest
    else if ended then word.reverse :: wordsAfter [c] true false rest
    else wordsAfter (c :: word) true false rest

/-- A word in pieces that are no wider than a number of columns. -/
def chopAfter (columns : Nat) (piece : List Char) (taken : Nat) : List Char → List (List Char)
  | [] => if taken = 0 then [] else [piece.reverse]
  | c :: rest =>
    let n := columnsOf c
    if columns < taken + n then piece.reverse :: chopAfter columns [c] n rest
    else chopAfter columns (c :: piece) (taken + n) rest

/-- Fills lines with words; `line` is the line begun, which takes so many columns. Blanks at its end
may stand beyond the last column. -/
def fillLines (columns : Nat) (overlong : Overlong) (line : List Char) (taken : Nat) :
    List (List Char) → List (List Char)
  | [] => [line]
  | word :: words =>
    let needed := width (dropWhileEnd isBlank word)
    let before := if line.isEmpty then [] else [line]
    if taken + needed ≤ columns then
      fillLines columns overlong (line ++ word) (taken + width word) words
    else if columns < needed ∧ overlong = .folded then
      let pieces := chopAfter columns [] 0 word
      let last := (pieces.getLast?).getD []
      before ++ pieces.dropLast ++ fillLines columns overlong last (width last) words
    else before ++ fillLines columns overlong word (width word) words

/-- A line without the blanks at its end that make it longer than a number of characters. -/
def trimBeyond (length : Nat) (s : List Char) : List Char :=
  let blanks := s.length - (dropWhileEnd isBlank s).length
  s.take (s.length - min blanks (s.length - length))

/-- The beginning of a line in exactly so many columns. -/
def startOf : (columns : Nat) → List Char → List Char
  | columns, [] => List.replicate columns ' '
  | columns, c :: rest =>
    if columnsOf c ≤ columns then c :: startOf (columns - columnsOf c) rest
    else List.replicate columns ' '

/-- A line cut off where it is too wide. -/
def cutOff (columns : Nat) (overlong : Overlong) (s : List Char) : List Char :=
  if width s ≤ columns then s
  else match overlong with
    | .folded => startOf columns s
    | .cut => startOf (columns - 1) s ++ ['…']

/-- The lines of a text in a number of columns. -/
def fitted (columns : Nat) (overlong : Overlong) (s : List Char) : List (List Char) :=
  (lines (visible s)).flatMap fun line =>
    let line := fillTabs 0 [] line
    let broken := match wordsAfter [] false false line with
      | [] => [line]
      | words => fillLines columns overlong [] 0 words
    broken.map fun line => cutOff columns overlong (trimBeyond columns line)

/-- The number of columns that the widest line of a text takes; tabs take none, and every character
that breaks a line ends one. -/
def measured (s : List Char) : Nat := ((splitLines (visible s)).map width).foldl max 0

/-- The columns of the terminal. -/
def terminalColumns : Nat := 1000

/-- The lines of a text as they are shown. -/
def shownLines (s : List Char) : List (List Char) :=
  (fitted terminalColumns .folded s).map (dropWhileEnd isBlank)

/-! ## Aligning -/

/-- A text with blanks behind it up to a number of columns. -/
def padRight (columns : Nat) (s : List Char) : List Char :=
  s ++ List.replicate (columns - width s) ' '

/-- A text with blanks before it up to a number of columns. -/
def padLeft (columns : Nat) (s : List Char) : List Char :=
  List.replicate (columns - width s) ' ' ++ s

end MovePlan.Host
