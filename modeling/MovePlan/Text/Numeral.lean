import MovePlan.Text.Digit
import MovePlan.Text.Case
import MovePlan.Numeric.Written

/-!
# Numerals in text

An integer numeral is an optional sign and decimal digits; a decimal numeral may also have a point,
an exponent, or be the name of infinity or of no number. White space around a numeral is ignored,
the four separators of ASCII excepted; digits of every script count, and one underscore may stand
between two digits. An integer numeral may not have too many digits, zeros in front among them.
-/

namespace MovePlan.Text

open Numeric

/-- White space that may surround a numeral. -/
def isNumeralBlank (c : Char) : Bool :=
  isBlank c && !(0x1C ≤ c.toNat && c.toNat ≤ 0x1F)

/-- Removes the underscores that stand between two digits; none if one stands elsewhere. `after`
tells whether the character before was a digit. -/
def joinDigits? (after : Bool) : List Char → Option (List Char)
  | [] => some []
  | '_' :: rest =>
    match rest with
    | d :: _ => if after && isDigit d then joinDigits? false rest else none
    | [] => none
  | c :: rest => (joinDigits? (isDigit c) rest).map (c :: ·)

/-- The sign and the digits of an integer numeral; true for a minus. -/
def numeral? (s : List Char) : Option (Bool × List Char) := do
  let (negative, digits) := takeSign (trimBy isNumeralBlank s)
  let digits ← joinDigits? false digits
  if digits.isEmpty || !digits.all isDigit then none else some (negative, digits)

/-- The integer that a text spells; none also if it spells one with too many digits. -/
def readInt? (s : List Char) : Option Int := do
  let (negative, digits) ← numeral? s
  if digitLimit < digits.length then none
  else
    let n := valueOf 10 digitValue? digits
    some (if negative then -n else n)

/-- How many digits stand at the beginning of a numeral, if they are too many. What follows them is
not looked at. -/
def excess? (s : List Char) : Option Nat := do
  let body := (takeSign (trimBy isNumeralBlank s)).2
  let digits ← joinDigits? false (body.takeWhile fun c => isDigit c || c == '_')
  if digitLimit < digits.length then some digits.length else none

/-! ## Decimal numerals -/

/-- The names of numbers that have no digits. -/
def namedNumber? (negative : Bool) (s : List Char) : Option Binary64 :=
  let name := s.map Char.toLower
  if name = ['i', 'n', 'f'] ∨ name = ['i', 'n', 'f', 'i', 'n', 'i', 't', 'y'] then
    some (.infinity negative)
  else if name = ['n', 'a', 'n'] then some .nan
  else none

/-- The power of ten after the digits: nothing, or an `e`, an optional sign and digits. -/
def readExponent? : List Char → Option Int
  | [] => some 0
  | c :: rest =>
    if c == 'e' || c == 'E' then
      let (negative, digits) := takeSign rest
      if digits.isEmpty || !digits.all isDigit then none
      else
        let n := valueOf 10 digitValue? digits
        some (if negative then -n else n)
    else none

/-- The number that digits, a point and an exponent spell. -/
def readDecimal? (negative : Bool) (s : List Char) : Option Binary64 := do
  let whole := s.takeWhile isDigit
  let (fraction, rest) := match s.dropWhile isDigit with
    | '.' :: rest => (rest.takeWhile isDigit, rest.dropWhile isDigit)
    | rest => ([], rest)
  let exponent ← readExponent? rest
  if whole.isEmpty && fraction.isEmpty then none
  else
    let digits := valueOf 10 digitValue? (whole ++ fraction)
    some (.ofDecimal negative digits (exponent - fraction.length))

/-- The number that a text spells. -/
def readBinary64? (s : List Char) : Option Binary64 := do
  let (negative, body) := takeSign (trimBy isNumeralBlank s)
  let body ← joinDigits? false body
  namedNumber? negative body <|> readDecimal? negative body

end MovePlan.Text
