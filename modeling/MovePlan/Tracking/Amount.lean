import MovePlan.Error
import MovePlan.Numeric.Written

/-!
# Amounts as text

An amount in smallest units is shown with a given number of decimals, exactly: the digits are those
of the integer, and a point stands before the last ones. What stands before the point and what stands
after it are integers of their own, and either may have too many digits for a text. With a negative
number of decimals the amount is scaled up and shown as a floating-point number, as far as that goes.
-/

namespace MovePlan.Tracking

open Numeric

/-- An amount with decimals, by the quotient and the remainder of its magnitude. -/
def exactAmount (raw : Int) (decimals : Nat) : List Char :=
  let sign := if raw < 0 then ['-'] else []
  let unit := tenTo decimals
  let whole := natText (raw.natAbs / unit)
  if decimals = 0 then sign ++ whole
  else sign ++ whole ++ '.' :: padded decimals (raw.natAbs % unit)

/-- Whether an amount has a text: the whole part and, where there are decimals, the rest of it. -/
def hasAmountText (raw : Int) (decimals : Nat) : Bool :=
  hasText ((raw.natAbs / tenTo decimals : Nat) : Int) &&
    (decimals == 0 || hasText ((raw.natAbs % tenTo decimals : Nat) : Int))

/-- An amount in units that are larger than the smallest by a power of ten. -/
def scaledAmount (raw : Int) (power : Int) : Except Error (List Char) :=
  match Binary64.ofInt? raw.natAbs with
  | none => .error .overflow
  | some magnitude =>
    let unit := Binary64.ofDecimal false 1 (-power)
    if unit.isZero then .error .divisionByZero
    else
      let sign := if raw < 0 then ['-'] else []
      .ok (sign ++ (Binary64.floorQuotient magnitude unit).text)

/-- An amount as text. -/
def formatAmount (raw decimals : Int) : Except Error (List Char) :=
  if decimals < 0 then scaledAmount raw (-decimals)
  else if hasAmountText raw decimals.toNat then .ok (exactAmount raw decimals.toNat)
  else .error .tooManyDigits

/-- A difference of amounts as text, with a sign also if it is positive. -/
def formatDelta (delta decimals : Int) : Except Error String := do
  let text ← formatAmount delta decimals
  return String.ofList (if 0 ≤ delta then '+' :: text else text)

end MovePlan.Tracking
