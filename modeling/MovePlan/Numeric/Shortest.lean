import MovePlan.Numeric.Binary64

/-!
# The shortest decimal that reads back

Of all decimals that round to a given number, the ones with the fewest digits, and of those the
nearest. The decimals of a given length around the number form a grid; if any point of it rounds to
the number, so does one of the number's two neighbours on it. So the grids are tried from one digit
on, and on each only the two neighbours. Seventeen digits always suffice, which ends the search.

All comparisons are between natural numbers.
-/

namespace MovePlan.Numeric

/-- A decimal `coefficient · 10 ^ exponent`. -/
structure Decimal where
  coefficient : Nat
  exponent : Int
  deriving DecidableEq, Repr

namespace Shortest

/-- The decimals that round to `mantissa · 2 ^ exponent`, between `low` and `high` in quarters of
the unit; the ends belong to it when the mantissa is even. -/
structure Interval where
  low : Nat
  value : Nat
  high : Nat
  closed : Bool
  exponent : Int

/-- Below a power of two the numbers lie twice as close. -/
def Interval.of (mantissa : Nat) (exponent : Int) : Interval where
  low := 4 * mantissa - (if mantissa = twoTo 52 ∧ Binary64.leastExponent < exponent then 1 else 2)
  value := 4 * mantissa
  high := 4 * mantissa + 2
  closed := mantissa % 2 == 0
  exponent := exponent - 2

/-- Whether `coefficient · 10 ^ k` lies in the interval. -/
def Interval.holds (i : Interval) (coefficient : Nat) (k : Int) : Bool :=
  let unit := twoTo i.exponent.toNat * tenTo (-k).toNat
  let x := coefficient * tenTo k.toNat * twoTo (-i.exponent).toNat
  if i.closed then i.low * unit ≤ x && x ≤ i.high * unit else i.low * unit < x && x < i.high * unit

/-- The least `p` with the value below `10 ^ p`, searched upward from an estimate. -/
def Interval.magnitude (i : Interval) : Int :=
  let estimate : Int := ((Nat.log2 i.value : Int) + i.exponent) * 30103 / 100000
  let below (p : Int) : Bool :=
    i.value * twoTo i.exponent.toNat * tenTo (-p).toNat < tenTo p.toNat * twoTo (-i.exponent).toNat
  if below estimate then estimate else if below (estimate + 1) then estimate + 1 else estimate + 2

/-- The nearest decimal of the grid `10 ^ k` in the interval, if there is one. -/
def Interval.onGrid (i : Interval) (k : Int) : Option Decimal :=
  let num := i.value * twoTo i.exponent.toNat * tenTo (-k).toNat
  let den := tenTo k.toNat * twoTo (-i.exponent).toNat
  let below := num / den
  let above := below + 1
  match i.holds below k, i.holds above k with
  | true, true => some ⟨roundQuotient num den, k⟩
  | true, false => some ⟨below, k⟩
  | false, true => some ⟨above, k⟩
  | false, false => none

/-- The first grid, of one digit on, that has a point in the interval. -/
def Interval.search (i : Interval) (magnitude : Int) : List Nat → Decimal
  | [] => ⟨i.value, i.exponent⟩
  | digits :: more =>
    match i.onGrid (magnitude - digits) with
    | some d => d
    | none => i.search magnitude more

/-- Takes the zeros at the end of the coefficient into the exponent. -/
def trimZeros (coefficient : Nat) (exponent : Int) : Decimal :=
  if 0 < coefficient ∧ coefficient % 10 = 0 then trimZeros (coefficient / 10) (exponent + 1)
  else ⟨coefficient, exponent⟩
termination_by coefficient
decreasing_by omega

end Shortest

open Shortest in
/-- The shortest decimal that reads back as `mantissa · 2 ^ exponent`; zero for zero. -/
def shortestDecimal (mantissa : Nat) (exponent : Int) : Decimal :=
  if mantissa = 0 then ⟨0, 0⟩
  else
    let i := Interval.of mantissa exponent
    let d := i.search i.magnitude (List.range' 1 17)
    trimZeros d.coefficient d.exponent

end MovePlan.Numeric
