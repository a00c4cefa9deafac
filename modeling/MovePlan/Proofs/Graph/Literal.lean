import Mathlib.Data.List.Basic
import Mathlib.Data.List.TakeWhile
import Mathlib.Data.Nat.Digits.Defs
import MovePlan.Graph.Resolution

/-!
# Values of literals

The value of a literal is the integer that it spells, if it is a text of decimal digits and an `n`, and
the literal itself otherwise (`Literal.Gives`). Two forms are left out: digits and `n` with a line feed after
them are taken for an integer and then not read as one, and too many digits are not read.
-/

namespace MovePlan

open Json Text Numeric

namespace Literal

/-- Whether a text is decimal digits, at least one, that spell a number. -/
structure IsNumeral (digits : List Char) (n : Nat) : Prop where
  ne_nil : digits ≠ []
  value : ∃ ds : List Nat, digits.map digitValue? = ds.map some ∧ n = Nat.ofDigits 10 ds.reverse

/-- The text of an integer too large for JSON numbers. -/
def bigText (digits : List Char) : String := String.ofList (digits ++ ['n'])

/-- The same with a line feed after it. -/
def brokenText (digits : List Char) : String := String.ofList (digits ++ ['n', '\n'])

/-- What a literal gives. -/
inductive Gives : Json → Except Error Json → Prop where
  | integer {digits : List Char} {n : Nat} (h : IsNumeral digits n)
    (hlimit : digits.length ≤ digitLimit) : Gives (.str (bigText digits)) (.ok (.nat n))
  | lineFeed {digits : List Char} {n : Nat} (h : IsNumeral digits n)
    (hlimit : digits.length ≤ digitLimit) :
    Gives (.str (brokenText digits)) (.error (.invalidInteger (bigText digits)))
  /-- With or without a line feed, there are too many digits. -/
  | tooLong {digits : List Char} {n : Nat} (h : IsNumeral digits n)
    (hlimit : digitLimit < digits.length) {text : String}
    (htext : text = bigText digits ∨ text = brokenText digits) :
    Gives (.str text) (.error (.numeralTooLong digits.length))
  | self {v : Json}
    (h : ∀ digits n, IsNumeral digits n → v ≠ .str (bigText digits) ∧ v ≠ .str (brokenText digits)) :
    Gives v (.ok v)

/-- Whether a literal is digits and `n` before a line feed, or digits that are too many and `n`. -/
def IsBroken (v : Json) : Prop :=
  ∃ digits n, IsNumeral digits n ∧
    (v = .str (brokenText digits) ∨ digitLimit < digits.length ∧ v = .str (bigText digits))

/-! ## Numerals -/

variable {digits s : List Char} {n : Nat} {last : Bool}

/-- The value of digits is the one that their positions give them. -/
theorem valueOf_eq_ofDigits {ds : List Nat} (h : digits.map digitValue? = ds.map some) :
    valueOf 10 digitValue? digits = Nat.ofDigits 10 ds.reverse := by
  calc valueOf 10 digitValue? digits
      = (digits.map digitValue?).foldl (fun n d => 10 * n + d.getD 0) 0 := by
        rw [List.foldl_map, valueOf]
    _ = ds.foldl (fun n d => 10 * n + d) 0 := by
        rw [h, List.foldl_map]
        rfl
    _ = Nat.ofDigits 10 ds.reverse := by
        rw [Nat.ofDigits_eq_foldr, List.foldr_reverse]
        exact List.foldl_ext _ _ 0 fun n d _ => Nat.add_comm _ _

/-- The digits of a numeral are digits, at least one, and it has their value. -/
theorem isNumeral_iff : IsNumeral digits n ↔
    digits ≠ [] ∧ (∀ c ∈ digits, isDigit c = true) ∧ n = valueOf 10 digitValue? digits := by
  constructor
  · rintro ⟨hne, ds, hds, rfl⟩
    refine ⟨hne, fun c hc => ?_, (valueOf_eq_ofDigits hds).symm⟩
    obtain ⟨d, -, hd⟩ := List.mem_map.mp (hds ▸ List.mem_map_of_mem hc)
    rw [isDigit, ← hd, Option.isSome_some]
  · rintro ⟨hne, hdigits, rfl⟩
    have hds : digits.map digitValue? = (digits.map fun c => (digitValue? c).getD 0).map some := by
      rw [List.map_map]
      refine List.map_congr_left fun c hc => ?_
      obtain ⟨d, hd⟩ := Option.isSome_iff_exists.mp (hdigits c hc)
      rw [Function.comp_apply, hd, Option.getD_some]
    exact ⟨hne, _, hds, valueOf_eq_ofDigits hds⟩

/-- What is taken for a large integer are digits and `n`, perhaps with a line feed after it. -/
theorem bigIntegerDigits?_eq_some_iff : bigIntegerDigits? s = some (digits, last) ↔
    (digits ≠ [] ∧ ∀ c ∈ digits, isDigit c = true) ∧
      s = digits ++ if last then ['n'] else ['n', '\n'] := by
  constructor
  · intro h
    have hs := List.takeWhile_append_dropWhile (p := isDigit) (l := s)
    have hall : ∀ c ∈ s.takeWhile isDigit, isDigit c = true := fun _ => List.mem_takeWhile_imp
    unfold bigIntegerDigits? at h
    split at h
    · next hdrop =>
      obtain ⟨hne, hd⟩ := Option.ite_none_left_eq_some.mp h
      cases hd
      rw [hdrop] at hs
      exact ⟨⟨by simpa using hne, hall⟩, hs.symm⟩
    · next hdrop =>
      obtain ⟨hne, hd⟩ := Option.ite_none_left_eq_some.mp h
      cases hd
      rw [hdrop] at hs
      exact ⟨⟨by simpa using hne, hall⟩, hs.symm⟩
    · cases h
  · rintro ⟨⟨hne, hdigits⟩, rfl⟩
    have hn : isDigit 'n' = false := by decide
    unfold bigIntegerDigits?
    rw [List.takeWhile_append_of_pos hdigits, List.dropWhile_append_of_pos hdigits]
    cases last <;> simp [hn, hne]

/-- The digits are a numeral, in a text of one of the two forms. -/
theorem isNumeral_of_bigIntegerDigits? {t : String}
    (h : bigIntegerDigits? t.toList = some (digits, last)) :
    IsNumeral digits (valueOf 10 digitValue? digits) ∧
      t = if last then bigText digits else brokenText digits := by
  obtain ⟨⟨hne, hdigits⟩, ht⟩ := bigIntegerDigits?_eq_some_iff.mp h
  refine ⟨isNumeral_iff.mpr ⟨hne, hdigits, rfl⟩, String.toList_inj.mp ?_⟩
  rw [ht]
  cases last <;> simp [bigText, brokenText]

/-- A numeral with `n` is taken for a large integer. -/
theorem IsNumeral.bigIntegerDigits?_bigText (h : IsNumeral digits n) :
    bigIntegerDigits? (bigText digits).toList = some (digits, true) := by
  obtain ⟨hne, hdigits, -⟩ := isNumeral_iff.mp h
  exact bigIntegerDigits?_eq_some_iff.mpr ⟨⟨hne, hdigits⟩, by simp [bigText]⟩

theorem IsNumeral.bigIntegerDigits?_brokenText (h : IsNumeral digits n) :
    bigIntegerDigits? (brokenText digits).toList = some (digits, false) := by
  obtain ⟨hne, hdigits, -⟩ := isNumeral_iff.mp h
  exact bigIntegerDigits?_eq_some_iff.mpr ⟨⟨hne, hdigits⟩, by simp [brokenText]⟩

/-! ## Values -/

/-- What a literal gives is told by its form. -/
theorem gives_decodeLiteral (v : Json) : Gives v (decodeLiteral v) := by
  cases v with
  | str t =>
    rw [decodeLiteral]
    split
    · next hnone =>
      refine .self fun digits n h => ⟨?_, ?_⟩
      · rintro ⟨⟩
        cases hnone.symm.trans (h.bigIntegerDigits?_bigText)
      · rintro ⟨⟩
        cases hnone.symm.trans (h.bigIntegerDigits?_brokenText)
    · next digits last hdigits =>
      obtain ⟨hnumeral, ht⟩ := isNumeral_of_bigIntegerDigits? hdigits
      split
      · next hlimit =>
        refine .tooLong hnumeral hlimit ?_
        cases last
        · exact Or.inr ht
        · exact Or.inl ht
      · next hlimit =>
        rw [Nat.not_lt] at hlimit
        cases last with
        | true =>
          obtain rfl : t = bigText digits := ht
          exact .integer hnumeral hlimit
        | false =>
          obtain rfl : t = brokenText digits := ht
          exact .lineFeed hnumeral hlimit
  | _ => exact .self fun _ _ _ => ⟨nofun, nofun⟩

/-- The form of a literal tells what it gives. -/
theorem Gives.decodeLiteral_eq {v : Json} {out : Except Error Json} (h : Gives v out) :
    decodeLiteral v = out := by
  cases h with
  | integer h hlimit =>
    simp [decodeLiteral, h.bigIntegerDigits?_bigText, (isNumeral_iff.mp h).2.2, Nat.not_lt.mpr hlimit]
  | lineFeed h hlimit =>
    simp [decodeLiteral, h.bigIntegerDigits?_brokenText, bigText, Nat.not_lt.mpr hlimit]
  | tooLong h hlimit htext =>
    obtain rfl | rfl := htext
    · simp [decodeLiteral, h.bigIntegerDigits?_bigText, hlimit]
    · simp [decodeLiteral, h.bigIntegerDigits?_brokenText, hlimit]
  | self h =>
    have hgives := gives_decodeLiteral v
    generalize decodeLiteral v = out at hgives
    cases hgives with
    | integer h' => exact absurd rfl (h _ _ h').1
    | lineFeed h' => exact absurd rfl (h _ _ h').2
    | tooLong h' _ htext =>
      obtain rfl | rfl := htext
      · exact absurd rfl (h _ _ h').1
      · exact absurd rfl (h _ _ h').2
    | self => rfl

/-- What the decoding of a literal comes to is what the literal gives. -/
theorem decodeLiteral_eq_iff {v : Json} {out : Except Error Json} :
    decodeLiteral v = out ↔ Gives v out :=
  ⟨fun h => h ▸ gives_decodeLiteral v, Gives.decodeLiteral_eq⟩

/-- A literal that is not broken has a value. -/
theorem exists_value {v : Json} (h : ¬ IsBroken v) : ∃ w, decodeLiteral v = .ok w := by
  have hgives := gives_decodeLiteral v
  generalize decodeLiteral v = out at hgives
  cases hgives with
  | integer | self => exact ⟨_, rfl⟩
  | lineFeed h' => exact absurd ⟨_, _, h', Or.inl rfl⟩ h
  | tooLong h' hlimit htext =>
    obtain rfl | rfl := htext
    · exact absurd ⟨_, _, h', Or.inr ⟨hlimit, rfl⟩⟩ h
    · exact absurd ⟨_, _, h', Or.inl rfl⟩ h

end Literal

end MovePlan
