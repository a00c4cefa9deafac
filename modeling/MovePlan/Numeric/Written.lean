import MovePlan.Numeric.Shortest

/-!
# Numbers as text

Integers are written in full, unless they have more digits than a text may have. A floating-point
number is written with the fewest digits that read back: positional while its decimal point lies within sixteen places to the right and four zeros to
the left, always with a digit after the point, else with an exponent of at least two digits. Fixed
notation has a given count of decimals.
-/

namespace MovePlan.Numeric

/-- The most digits of an integer in a text, whether it is read or written. -/
def digitLimit : Nat := 4300

/-- The decimal digits of a natural number, however many there are. -/
def natText (n : Nat) : List Char := Nat.toDigits 10 n

/-- The digits of an integer, after a minus sign if it is negative. They are its text only if there
are not too many of them (`hasText`). -/
def intText (n : Int) : List Char :=
  if n < 0 then '-' :: natText n.natAbs else natText n.natAbs

/-- Whether an integer has a text: its digits are no more than a text may have. -/
def hasText (n : Int) : Bool := (natText n.natAbs).length ≤ digitLimit

@[simp] theorem hasText_zero : hasText 0 = true := by decide

/-- What is said of an integer with too many digits, with what is known of their number. -/
def overLimit (count : String) : String :=
  s!"Exceeds the limit ({digitLimit} digits) for integer string conversion{count}; " ++
    "use sys.set_int_max_str_digits() to increase the limit"

/-- The digits of `n`, with zeros in front up to `width`. -/
def padded (width n : Nat) : List Char :=
  let ds := natText n
  List.replicate (width - ds.length) '0' ++ ds

/-- A magnitude with an exponent part: one digit, the others after a point, the power of ten. -/
def scientific (digits : List Char) (power : Int) : List Char :=
  let head := digits.take 1
  let tail := digits.drop 1
  let point := if tail.isEmpty then [] else '.' :: tail
  head ++ point ++ ['e', if power < 0 then '-' else '+'] ++ padded 2 power.natAbs

/-- A magnitude without an exponent part; `point` digits stand before the point. -/
def positional (digits : List Char) (point : Int) : List Char :=
  let zeros (n : Int) := List.replicate n.toNat '0'
  if point ≤ 0 then '0' :: '.' :: zeros (-point) ++ digits
  else if (digits.length : Int) ≤ point then digits ++ zeros (point - digits.length) ++ ['.', '0']
  else digits.take point.toNat ++ '.' :: digits.drop point.toNat

/-- Numbers with up to this many digits before the point are written out. -/
def widestPositional : Int := 16

/-- Numbers with the point at most this far before their first digit are written out. -/
def deepestPositional : Int := -3

/-- The text of a magnitude from its shortest digits. -/
def magnitudeText (d : Decimal) : List Char :=
  let digits := natText d.coefficient
  let point : Int := if d.coefficient = 0 then 1 else digits.length + d.exponent
  if deepestPositional ≤ point ∧ point ≤ widestPositional then positional digits point
  else scientific digits (point - 1)

namespace Binary64

def signText (negative : Bool) : List Char := if negative then ['-'] else []

/-- The shortest text that reads back as the number. -/
def text : Binary64 → List Char
  | nan => ['n', 'a', 'n']
  | infinity s => signText s ++ ['i', 'n', 'f']
  | finite s m e => signText s ++ magnitudeText (shortestDecimal m e)

/-- The number with `places` decimals; the exact value is rounded, a half to the even digit. -/
def fixedText (places : Nat) : Binary64 → List Char
  | nan => ['n', 'a', 'n']
  | infinity s => signText s ++ ['i', 'n', 'f']
  | finite s m e =>
    let (a, b) := quotient m e
    let n := roundQuotient (a * tenTo places) b
    let fraction := if places = 0 then [] else '.' :: padded places (n % tenTo places)
    signText s ++ natText (n / tenTo places) ++ fraction

end Binary64

end MovePlan.Numeric
