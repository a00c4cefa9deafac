import MovePlan.Numeric.Rounding

/-!
# Binary floating point, 64 bits wide

A finite number is `± mantissa · 2 ^ exponent`, with the mantissa below `2 ^ 53` and the exponent
between `-1074` and `971`; the mantissa has its top bit set unless the exponent is the least one.
Every operation computes the exact quotient and rounds it once, in `ofQuotient`, to the nearest
number; a half goes to the even mantissa and what lies beyond the last number is infinite.
-/

namespace MovePlan.Numeric

/-- A floating-point number of 64 bits. -/
inductive Binary64 where
  | nan
  | infinity (negative : Bool)
  | finite (negative : Bool) (mantissa : Nat) (exponent : Int)
  deriving DecidableEq, Repr, Inhabited

namespace Binary64

/-- The exponent of the numbers that are nearest to zero. -/
def leastExponent : Int := -1074

/-- The exponent of the largest finite numbers. -/
def greatestExponent : Int := 971

def zero (negative : Bool) : Binary64 := .finite negative 0 leastExponent

/-! ## Rounding -/

/-- The exponent at which `num / den`, not zero, has a mantissa of 53 bits, or the least one. -/
def exponentFor (num den : Nat) : Int :=
  let e : Int := (Nat.log2 num : Int) - Nat.log2 den - 52
  let (n, d) := inUnitsOfTwo num den e
  max leastExponent (if n < twoTo 52 * d then e - 1 else e)

/-- The number nearest to `± num / den`. -/
def ofQuotient (negative : Bool) (num den : Nat) : Binary64 :=
  if num = 0 then zero negative
  else
    let e := exponentFor num den
    let (n, d) := inUnitsOfTwo num den e
    let m := roundQuotient n d
    let (m, e) := if m = twoTo 53 then (twoTo 52, e + 1) else (m, e)
    if greatestExponent < e then .infinity negative else .finite negative m e

/-- The number nearest to `± coefficient · 10 ^ exponent`. Exponents far outside the range are
answered without writing the power of ten out. -/
def ofDecimal (negative : Bool) (coefficient : Nat) (exponent : Int) : Binary64 :=
  if coefficient = 0 then zero negative
  else
    let magnitude : Int := (Nat.toDigits 10 coefficient).length + exponent
    if 400 < magnitude then .infinity negative
    else if magnitude < -400 then zero negative
    else ofQuotient negative (coefficient * tenTo exponent.toNat) (tenTo (-exponent).toNat)

/-- The magnitude of a finite number as an exact quotient. -/
def quotient (mantissa : Nat) (exponent : Int) : Nat × Nat :=
  (mantissa * twoTo exponent.toNat, twoTo (-exponent).toNat)

/-- The number nearest to an integer, infinite beyond the range. -/
def ofInt (n : Int) : Binary64 := ofQuotient (n < 0) n.natAbs 1

/-- An integer as a number, if it is within the range. -/
def ofInt? (n : Int) : Option Binary64 :=
  match ofInt n with
  | .infinity _ => none
  | x => some x

/-- The quotient of two integers, the second not zero, rounded once; none if it is too large. -/
def divInt? (a b : Int) : Option Binary64 :=
  match ofQuotient ((a < 0) != (b < 0) && a != 0) a.natAbs b.natAbs with
  | .infinity _ => none
  | x => some x

/-! ## Classification -/

/-- Whether the number counts as zero, with either sign. -/
def isZero : Binary64 → Bool
  | finite _ m _ => m == 0
  | _ => false

/-- The integer part, of a finite number; cut toward zero. -/
def truncate? : Binary64 → Option Int
  | finite s m e =>
    let (n, d) := quotient m e
    some (if s then -((n / d : Nat) : Int) else ((n / d : Nat) : Int))
  | _ => none

/-- Whether the number is a finite integer. -/
def isInteger : Binary64 → Bool
  | finite _ m e => let (n, d) := quotient m e; n % d == 0
  | _ => false

/-! ## Order

Comparisons are exact, also between an integer and a number, and false with a NaN. -/

/-- Signed numerator and denominator of a finite number. -/
def signedQuotient (negative : Bool) (mantissa : Nat) (exponent : Int) : Int × Nat :=
  let (n, d) := quotient mantissa exponent
  (if negative then -(n : Int) else n, d)

def lt : Binary64 → Binary64 → Bool
  | nan, _ => false
  | _, nan => false
  | infinity s, infinity t => s && !t
  | infinity s, finite .. => s
  | finite .., infinity t => !t
  | finite s m e, finite t n f =>
    let (a, b) := signedQuotient s m e
    let (c, d) := signedQuotient t n f
    a * d < c * b

def ltInt : Binary64 → Int → Bool
  | nan, _ => false
  | infinity s, _ => s
  | finite s m e, n => let (a, b) := signedQuotient s m e; a < n * b

def gtInt : Binary64 → Int → Bool
  | nan, _ => false
  | infinity s, _ => !s
  | finite s m e, n => let (a, b) := signedQuotient s m e; n * b < a

/-! ## Arithmetic -/

def neg : Binary64 → Binary64
  | nan => nan
  | infinity s => infinity (!s)
  | finite s m e => finite (!s) m e

/-- The sum; two opposite numbers add to the positive zero. -/
def add : Binary64 → Binary64 → Binary64
  | nan, _ => nan
  | _, nan => nan
  | infinity s, infinity t => if s = t then infinity s else nan
  | infinity s, finite .. => infinity s
  | finite .., infinity t => infinity t
  | finite s m e, finite t n f =>
    let (a, b) := signedQuotient s m e
    let (c, d) := signedQuotient t n f
    let sum := a * d + c * b
    if sum = 0 then zero (s && t) else ofQuotient (sum < 0) sum.natAbs (b * d)

def sub (x y : Binary64) : Binary64 := add x (neg y)

def mul : Binary64 → Binary64 → Binary64
  | nan, _ => nan
  | _, nan => nan
  | infinity s, infinity t => infinity (s != t)
  | infinity s, finite t n _ => if n = 0 then nan else infinity (s != t)
  | finite s m _, infinity t => if m = 0 then nan else infinity (s != t)
  | finite s m e, finite t n f =>
    let (a, b) := quotient m e
    let (c, d) := quotient n f
    ofQuotient (s != t) (a * c) (b * d)

/-- The quotient, by a number that is not zero. -/
def div : Binary64 → Binary64 → Binary64
  | nan, _ => nan
  | _, nan => nan
  | infinity _, infinity _ => nan
  | infinity s, finite t _ _ => infinity (s != t)
  | finite s _ _, infinity t => zero (s != t)
  | finite s m e, finite t n f =>
    let (a, b) := quotient m e
    let (c, d) := quotient n f
    if c = 0 then nan else ofQuotient (s != t) (a * d) (b * c)

/-- The greatest integer not above the number, as a number with the sign of the argument. -/
def floor : Binary64 → Binary64
  | finite s m e =>
    let (a, b) := quotient m e
    let q := if s && a % b != 0 then a / b + 1 else a / b
    ofQuotient s q 1
  | x => x

/-- The remainder of `x` after taking `y` away a whole number of times; of the magnitudes alone,
which is exact. -/
def remainderOfMagnitudes : Binary64 → Binary64 → Binary64
  | finite _ m e, finite _ n f =>
    let (a, b) := quotient m e
    let (c, d) := quotient n f
    ofQuotient false ((a * d) % (c * b)) (b * d)
  | x, infinity _ => x
  | _, _ => nan

/-- The floor of `x / y` computed from the remainder, for `x` not negative and `y` positive: the
rounded quotient of `x` less its remainder, taken down to an integer unless it lies more than a half
above one. -/
def floorQuotient (x y : Binary64) : Binary64 :=
  let q := div (sub x (remainderOfMagnitudes x y)) y
  if q.isZero then zero false
  else
    let f := floor q
    if lt (finite false (twoTo 52) (-53)) (sub q f) then add f (ofInt 1) else f

/-- The number nearest to the argument rounded to `places` decimals; a half of the last place goes
to the even digit. -/
def roundPlaces (places : Nat) : Binary64 → Binary64
  | finite s m e =>
    let (a, b) := quotient m e
    ofQuotient s (roundQuotient (a * tenTo places) b) (tenTo places)
  | x => x

end Binary64

end MovePlan.Numeric
