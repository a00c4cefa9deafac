import MovePlan.Text.Ranges

/-!
# Blank characters

White space by the Unicode property of that name together with the four separators of ASCII, and
the trimming of it from the ends of a text.
-/

namespace MovePlan.Text

/-- The code points of white space. -/
def blankRanges : Ranges :=
  [(0x9, 0xD), (0x1C, 0x20), (0x85, 0x85), (0xA0, 0xA0), (0x1680, 0x1680), (0x2000, 0x200A),
  (0x2028, 0x2029), (0x202F, 0x202F), (0x205F, 0x205F), (0x3000, 0x3000)]

def isBlank (c : Char) : Bool := blankRanges.holds c.toNat

/-! ## Trimming -/

/-- Drops the characters with the property from the end. -/
def dropWhileEnd (p : Char → Bool) (s : List Char) : List Char := (s.reverse.dropWhile p).reverse

/-- Drops the characters with the property from both ends. -/
def trimBy (p : Char → Bool) (s : List Char) : List Char := dropWhileEnd p (s.dropWhile p)

def trim (s : List Char) : List Char := trimBy isBlank s

end MovePlan.Text
