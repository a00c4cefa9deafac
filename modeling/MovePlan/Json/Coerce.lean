import MovePlan.Error
import MovePlan.Json.Reader
import MovePlan.Text.Numeral

/-!
# Numbers and documents from loose values

Nodes and files give integers as numbers or as texts, and settings give numbers as texts. Here are
the ways in which such values are taken, each with its own idea of what is an error. A numeral with
too many digits is one to all of them.
-/

namespace MovePlan.Json

open Numeric Text

/-- What is wrong with a text that is not read as an integer. -/
def noInteger (s : List Char) : Error :=
  match excess? s with
  | some digits => .numeralTooLong digits
  | none => .invalidInteger (String.ofList s)

/-- An amount of the chain: an integer, or a text that spells one; the default where it is null. -/
def amount (name : String) (default : Int) : Json → Except Error Int
  | null => .ok default
  | bool _ => .error (.booleanInteger name)
  | int n => .ok n
  | str s =>
    match readInt? (trim s.toList) with
    | some n => .ok n
    | none => .error (.notInteger name (str s))
  | j => .error (.notInteger name j)

/-- The integer that a value is, is cut to, or spells. -/
def toInteger : Json → Except Error Int
  | int n => .ok n
  | bool b => .ok (if b then 1 else 0)
  | float .nan => .error .integerOfNaN
  | float (.infinity _) => .error .overflow
  | float x => .ok (x.truncate?.getD 0)
  | str s =>
    match readInt? s.toList with
    | some n => .ok n
    | none => .error (noInteger s.toList)
  | _ => .error .wrongType

/-- The integer that a value is, true and false being one and zero. -/
def whole? : Json → Option Int
  | int n => some n
  | bool b => some b.toInt
  | _ => none

/-- The floating-point number that a number is. -/
def toBinary64 (j : Json) : Except Error Binary64 :=
  match j.whole?, j with
  | some n, _ => match Binary64.ofInt? n with
    | some x => .ok x
    | none => .error .overflow
  | none, float x => .ok x
  | none, _ => .error .wrongType

/-- The difference of two numbers; integers are subtracted exactly. -/
def minus (a b : Json) : Except Error Binary64 :=
  match a.whole?, b.whole? with
  | some m, some n => toBinary64 (int (m - n))
  | _, _ => do return (← a.toBinary64).sub (← b.toBinary64)

/-- The members of a value that is gone through; none are there if the value is not given. -/
def membersIfGiven (j : Json) : Except Error (List Json) :=
  if !j.given then .ok []
  else match j.members? with
    | some xs => .ok xs
    | none => .error .wrongType

/-- Whether a value is given and yet has no members: true, or a number other than zero. -/
def isLone (j : Json) : Bool := j.given && j.members?.isNone

/-- Only a value without members is refused, and only if it is given. -/
theorem membersIfGiven_eq (j : Json) : (j.isLone = true ∧ j.membersIfGiven = .error .wrongType) ∨
    (j.isLone = false ∧ ∃ xs, j.membersIfGiven = .ok xs) := by
  rw [membersIfGiven, isLone]
  cases j.given <;> cases j.members? <;> simp

theorem membersIfGiven_arr (xs : List Json) : (arr xs).membersIfGiven = .ok xs := by
  cases xs <;> rfl

/-! ## Numbers within bounds -/

/-- Whether one number is less than another; false for other values. -/
def numberLt : Json → Json → Bool
  | int a, int b => a < b
  | int a, float y => y.gtInt a
  | float x, int b => x.ltInt b
  | float x, float y => x.lt y
  | _, _ => false

/-- The floating-point number that a value is or spells; none if it is or spells none. An integer
beyond the range is an error. -/
def toBinary64? : Json → Except Error (Option Binary64)
  | float x => .ok (some x)
  | bool b => .ok (some (.ofInt (if b then 1 else 0)))
  | int n =>
    match Binary64.ofInt? n with
    | some x => .ok (some x)
    | none => .error .overflow
  | str s => .ok (readBinary64? s.toList)
  | _ => .ok none

/-- The lesser of two numbers, the first unless the second is less. -/
def lesser (a b : Json) : Json := if numberLt b a then b else a

/-- The greater of two numbers, the first unless the second is greater. -/
def greater (a b : Json) : Json := if numberLt a b then b else a

/-- A number taken from a loose value and put between two bounds; the default if there is none. A
value that is no number passes the bounds. -/
def numberWithin (default low high : Json) (j : Json) : Except Error Json := do
  match ← toBinary64? j with
  | none => return default
  | some x =>
    let f := float x
    if numberLt f low || numberLt high f then return greater low (lesser high f) else return f

/-! ## Documents -/

/-- The part of a text from one place to another; a negative end counts from the end. -/
def slice (s : List Char) (start stop : Int) : List Char :=
  let stop := if stop < 0 then stop + s.length else stop
  (s.take stop.toNat).drop start.toNat

/-- The text around a position, with dots where it is cut off. -/
def snippet (s : List Char) (position : Nat) (width : Int) : String :=
  let start := max 0 ((position : Int) - Int.fdiv width 2)
  let stop := min (s.length : Int) (position + Int.fdiv width 2)
  let part := slice s start stop
  let front := if 0 < start then ['.', '.', '.'] else []
  let back := if stop < s.length then ['.', '.', '.'] else []
  String.ofList (front ++ part ++ back)

/-- How much text around a fault is shown. -/
def snippetWidth : Int := 100

/-- Reads a JSON text; a fault is reported with its position and the text around it, unless it is an
integer with too many digits. -/
def load (context : String) (width : Int) (text : String) : Except Error Json :=
  let s := text.toList
  match read s with
  | .ok j => .ok j
  | .error ⟨.longInteger digits, _⟩ => .error (.numeralTooLong digits)
  | .error f =>
    let position := f.position s
    .error (.invalidJson context f.kind.message position (snippet s position width))

end MovePlan.Json
