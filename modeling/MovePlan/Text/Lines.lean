/-!
# Lines

Text that is read from files has one form of line ends, the line feed. Lines end at any of the
characters that break a line; a carriage return and the line feed after it are one end.
-/

namespace MovePlan.Text

/-- Carriage returns, alone or before a line feed, as line feeds. -/
def unifyLineEnds : List Char → List Char
  | [] => []
  | '\r' :: '\n' :: rest => '\n' :: unifyLineEnds rest
  | c :: rest => (if c = '\r' then '\n' else c) :: unifyLineEnds rest

/-- Whether a character ends a line. -/
def isLineEnd (c : Char) : Bool :=
  let n := c.toNat
  (0xA ≤ n && n ≤ 0xD) || (0x1C ≤ n && n ≤ 0x1E) || n == 0x85 || n == 0x2028 || n == 0x2029

/-- The lines of a text that follows `line`, which is read backward. -/
def splitLinesAfter (line : List Char) : List Char → List (List Char)
  | [] => if line.isEmpty then [] else [line.reverse]
  | '\r' :: '\n' :: rest => line.reverse :: splitLinesAfter [] rest
  | c :: rest =>
    if isLineEnd c then line.reverse :: splitLinesAfter [] rest else splitLinesAfter (c :: line) rest

/-- The lines of a text without their ends; there is none after the last end. -/
def splitLines (s : List Char) : List (List Char) := splitLinesAfter [] s

end MovePlan.Text
