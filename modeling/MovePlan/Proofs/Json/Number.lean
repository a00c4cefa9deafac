import MovePlan.Json.Reader
import MovePlan.Json.Writer
import MovePlan.Proofs.Numeric.Shortest
import MovePlan.Proofs.Text.Numeral

/-!
# Numbers that are written and read back

A number ends where something follows that belongs to no number: after a value there stands a comma,
the end of an array or object, or nothing. Integers are read back from their digits. The digits of a
floating-point number stand around a point or before an exponent; however they do, what is read is a
decimal of the same value (`readMagnitude?_magnitudeText`), which is all that is needed for it to be
read as the same number (`readPlain?_writeFloat`).
-/

namespace MovePlan.Json

open Numeric Text
open Binary64 (IsProper)

variable {rest whole digits : List Char} {negative : Bool}

/-- Whether a text may follow a value: it is empty, or begins with a comma or the end of an array or
object. -/
def Follows (rest : List Char) : Prop := ∀ c ∈ rest.head?, c = ',' ∨ c = ']' ∨ c = '\x7d'

theorem Follows.not_digit (h : Follows rest) : ∀ c ∈ rest.head?, c.isDigit = false := by
  intro c hc
  obtain rfl | rfl | rfl := h c hc <;> rfl

/-! ## The parts of a number -/

theorem takeWhole_append (hw : IsWhole whole) (hrest : ∀ c ∈ rest.head?, c.isDigit = false) :
    takeWhole (whole ++ rest) = some (whole, rest) := by
  obtain ⟨d, ds, rfl⟩ := List.exists_cons_of_ne_nil hw.ne_nil
  by_cases hd : d = '0'
  · subst hd
    cases hw.zero rfl
    rfl
  · obtain ⟨hdigit, hds⟩ := List.forall_mem_cons.1 hw.isDigit
    obtain ⟨htake, hdrop⟩ := takeWhile_dropWhile_of_head? hds hrest
    rw [List.cons_append, takeWhole]
    · rw [if_pos hdigit, htake, hdrop]
    · exact hd

theorem takeFraction_append (hne : digits ≠ []) (hdigits : ∀ c ∈ digits, c.isDigit = true)
    (hrest : ∀ c ∈ rest.head?, c.isDigit = false) :
    takeFraction ('.' :: digits ++ rest) = some (digits, rest) := by
  obtain ⟨d, ds, rfl⟩ := List.exists_cons_of_ne_nil hne
  obtain ⟨hdigit, hds⟩ := List.forall_mem_cons.1 hdigits
  obtain ⟨htake, hdrop⟩ := takeWhile_dropWhile_of_head? hds hrest
  rw [List.cons_append, List.cons_append, takeFraction, if_pos hdigit, htake, hdrop]

theorem takeFraction_eq_none (h : rest.head? ≠ some '.') : takeFraction rest = none := by
  unfold takeFraction
  split
  · exact absurd rfl h
  · rfl

/-- The exponent part of a number. -/
def exponentText (power : Int) : List Char :=
  ['e', if power < 0 then '-' else '+'] ++ padded 2 power.natAbs

theorem ofDigitChars_natText (n : Nat) : Nat.ofDigitChars 10 (natText n) 0 = n :=
  Nat.ofDigitChars_toDigits (by decide) (by decide)

theorem ofDigitChars_padded (width n : Nat) : Nat.ofDigitChars 10 (padded width n) 0 = n := by
  rw [padded, Nat.ofDigitChars_append, Nat.ofDigitChars_replicate_zero, Nat.mul_zero,
    ofDigitChars_natText]

theorem padded_ne_nil (width n : Nat) : padded width n ≠ [] := by
  simp [padded, natText_ne_nil]

theorem takeExponent_append (power : Int) (hrest : ∀ c ∈ rest.head?, c.isDigit = false) :
    takeExponent (exponentText power ++ rest) = some (power, rest) := by
  obtain ⟨htake, hdrop⟩ := takeWhile_dropWhile_of_head? (p := Char.isDigit)
    (t := padded 2 power.natAbs) (fun _ => isDigit_of_mem_padded) hrest
  have hsign : takeSign ((if power < 0 then '-' else '+') :: (padded 2 power.natAbs ++ rest)) =
      (decide (power < 0), padded 2 power.natAbs ++ rest) := by
    by_cases h : power < 0 <;> simp [h, takeSign]
  have hempty : (padded 2 power.natAbs).isEmpty = false := by simp [padded_ne_nil]
  have htext : exponentText power ++ rest =
      'e' :: (if power < 0 then '-' else '+') :: (padded 2 power.natAbs ++ rest) := rfl
  rw [htext, takeExponent]
  simp only [true_or, if_true, hsign, htake, hdrop, hempty, Bool.false_eq_true, if_false,
    ofDigitChars_padded, decide_eq_true_eq]
  congr 2
  split <;> omega

theorem takeExponent_eq_none (h : Follows rest) : takeExponent rest = none := by
  unfold takeExponent
  split
  · next c more =>
    obtain rfl | rfl | rfl := h c rfl <;> rfl
  · rfl

/-- A number is read by its whole part and what follows that. -/
theorem readMagnitude?_append (hw : IsWhole whole) {tail : List Char}
    (htail : ∀ c ∈ tail.head?, c.isDigit = false) :
    readMagnitude? negative (whole ++ tail) =
      some (numberValue negative whole (takeNumberTail tail), (takeNumberTail tail).rest) := by
  rw [readMagnitude?, takeWhole_append hw htail]

/-! ## Whole numbers -/

theorem takeNumberTail_of_follows (h : Follows rest) : takeNumberTail rest = ⟨none, none, rest⟩ := by
  have hpoint : rest.head? ≠ some '.' := fun hc => by simpa using h '.' hc
  rw [takeNumberTail, takeFraction_eq_none hpoint]
  simp only [takeExponent_eq_none h]

theorem readMagnitude?_natText (negative : Bool) (n : Nat) (h : Follows rest) :
    readMagnitude? negative (natText n ++ rest) =
      some (.int (if negative then -n else n), rest) := by
  rw [readMagnitude?_append (isWhole_natText n) h.not_digit, takeNumberTail_of_follows h]
  simp [numberValue, ofDigitChars_natText]

/-! ## Decimals -/

theorem readMagnitude?_fraction (hw : IsWhole whole) (hne : digits ≠ [])
    (hdigits : ∀ c ∈ digits, c.isDigit = true) (h : Follows rest) :
    readMagnitude? negative (whole ++ '.' :: digits ++ rest) =
      some (.float (.ofDecimal negative (Nat.ofDigitChars 10 (whole ++ digits) 0)
        (0 - digits.length)), rest) := by
  have htail : takeNumberTail ('.' :: digits ++ rest) = ⟨some digits, none, rest⟩ := by
    rw [takeNumberTail, takeFraction_append hne hdigits h.not_digit]
    simp only [takeExponent_eq_none h]
  rw [List.append_assoc, readMagnitude?_append hw (by simp), htail]
  rfl

theorem readMagnitude?_fraction_exponent (hw : IsWhole whole) (hne : digits ≠ [])
    (hdigits : ∀ c ∈ digits, c.isDigit = true) (power : Int) (h : Follows rest) :
    readMagnitude? negative (whole ++ '.' :: digits ++ exponentText power ++ rest) =
      some (.float (.ofDecimal negative (Nat.ofDigitChars 10 (whole ++ digits) 0)
        (power - digits.length)), rest) := by
  have htail : takeNumberTail ('.' :: digits ++ (exponentText power ++ rest)) =
      ⟨some digits, some power, rest⟩ := by
    rw [takeNumberTail, takeFraction_append hne hdigits (by simp [exponentText])]
    simp only [takeExponent_append power h.not_digit]
  rw [List.append_assoc, List.append_assoc, readMagnitude?_append hw (by simp), htail]
  rfl

theorem readMagnitude?_exponent (hw : IsWhole whole) (power : Int) (h : Follows rest) :
    readMagnitude? negative (whole ++ exponentText power ++ rest) =
      some (.float (.ofDecimal negative (Nat.ofDigitChars 10 whole 0) power), rest) := by
  have htail : takeNumberTail (exponentText power ++ rest) = ⟨none, some power, rest⟩ := by
    rw [takeNumberTail, takeFraction_eq_none (by simp [exponentText])]
    simp only [takeExponent_append power h.not_digit]
  rw [List.append_assoc, readMagnitude?_append hw (by simp [exponentText]), htail]
  simp [numberValue]

/-- The first digits of a number that is not zero. -/
theorem isWhole_take {c n : Nat} (hc : c ≠ 0) (hn : n ≠ 0) : IsWhole ((natText c).take n) where
  ne_nil := by simp [natText_ne_nil, hn]
  isDigit _ hd := isDigit_of_mem_natText (List.mem_of_mem_take hd)
  zero h := by
    rw [List.head?_take, if_neg hn] at h
    exact absurd h (head?_natText_ne hc)

theorem isWhole_append_zeros {c : Nat} (hc : c ≠ 0) (n : Nat) :
    IsWhole (natText c ++ List.replicate n '0') where
  ne_nil := by simp [natText_ne_nil]
  isDigit d hd := by
    obtain hd | hd := List.mem_append.1 hd
    · exact isDigit_of_mem_natText hd
    · rw [List.eq_of_mem_replicate hd]
      rfl
  zero h := by
    rw [List.head?_append_of_ne_nil _ (natText_ne_nil c)] at h
    exact absurd h (head?_natText_ne hc)

/-- Zeros between the point and the digits. -/
theorem readMagnitude?_zeros_before (c n : Nat) (h : Follows rest) :
    readMagnitude? negative ('0' :: '.' :: List.replicate n '0' ++ natText c ++ rest) =
      some (.float (.ofDecimal negative c (0 - (n + (natText c).length : Nat))), rest) := by
  have hdigits : ∀ d ∈ List.replicate n '0' ++ natText c, d.isDigit = true := by
    refine List.forall_mem_append.2 ⟨fun d hd => ?_, fun _ => isDigit_of_mem_natText⟩
    rw [List.eq_of_mem_replicate hd]
    rfl
  have hvalue : Nat.ofDigitChars 10 (['0'] ++ (List.replicate n '0' ++ natText c)) 0 = c := by
    rw [List.singleton_append, Nat.ofDigitChars_cons, Nat.ofDigitChars_append]
    simp [Nat.ofDigitChars_replicate_zero, ofDigitChars_natText]
  have hread : readMagnitude? negative (natText 0 ++ '.' :: _ ++ rest) = _ :=
    readMagnitude?_fraction (isWhole_natText 0) (by simp [natText_ne_nil]) hdigits h
  have hzero : natText 0 = ['0'] := rfl
  rw [hzero, hvalue, List.length_append, List.length_replicate] at hread
  exact hread

/-- Zeros between the digits and the point. -/
theorem readMagnitude?_zeros_after {c : Nat} (hc : c ≠ 0) (n : Nat) (h : Follows rest) :
    readMagnitude? negative (natText c ++ List.replicate n '0' ++ ['.', '0'] ++ rest) =
      some (.float (.ofDecimal negative (10 * (10 ^ n * c)) (-1)), rest) := by
  have hvalue : Nat.ofDigitChars 10 (natText c ++ List.replicate n '0' ++ ['0']) 0 =
      10 * (10 ^ n * c) := by
    rw [Nat.ofDigitChars_append, Nat.ofDigitChars_append, ofDigitChars_natText,
      Nat.ofDigitChars_replicate_zero]
    simp [Nat.ofDigitChars_cons]
  rw [readMagnitude?_fraction (isWhole_append_zeros hc n) (List.cons_ne_nil '0' []) (by simp) h,
    hvalue]
  rfl

/-- The point between the digits. -/
theorem readMagnitude?_point {c n : Nat} (hc : c ≠ 0) (hn : n ≠ 0) (hlt : n < (natText c).length)
    (h : Follows rest) :
    readMagnitude? negative ((natText c).take n ++ '.' :: (natText c).drop n ++ rest) =
      some (.float (.ofDecimal negative c (0 - ((natText c).length - n : Nat))), rest) := by
  have hne : (natText c).drop n ≠ [] := by
    rw [ne_eq, List.drop_eq_nil_iff]
    omega
  rw [readMagnitude?_fraction (isWhole_take hc hn) hne
    (fun d hd => isDigit_of_mem_natText (List.mem_of_mem_drop hd)) h, List.take_append_drop,
    ofDigitChars_natText, List.length_drop]

/-- A number without an exponent part is read as a decimal of the same value. -/
theorem readMagnitude?_positional {c : Nat} (hc : c ≠ 0) (k : Int) (h : Follows rest) :
    ∃ c' k', readMagnitude? negative (positional (natText c) ((natText c).length + k) ++ rest) =
        some (.float (.ofDecimal negative c' k'), rest) ∧
      Decimal.value ⟨c', k'⟩ = Decimal.value ⟨c, k⟩ := by
  unfold positional
  dsimp only
  split
  · next hpoint =>
    refine ⟨_, _, readMagnitude?_zeros_before c _ h, ?_⟩
    congr 2
    omega
  · next hpoint =>
    split
    · next hlong =>
      refine ⟨_, _, readMagnitude?_zeros_after hc _ h, ?_⟩
      -- the exponent is a natural number, and the digit behind the point takes its ten back
      obtain ⟨n, rfl⟩ := Int.eq_ofNat_of_zero_le (show 0 ≤ k by omega)
      rw [add_sub_cancel_left, Int.toNat_natCast, Decimal.value, Decimal.value]
      simp
      ring
    · next hshort =>
      refine ⟨_, _, readMagnitude?_point hc (by omega) (by omega) h, ?_⟩
      congr 2
      omega

/-- A number with an exponent part is read as the decimal that it was written from. -/
theorem readMagnitude?_scientific {c : Nat} (hc : c ≠ 0) (k : Int) (h : Follows rest) :
    readMagnitude? negative (scientific (natText c) ((natText c).length + k - 1) ++ rest) =
      some (.float (.ofDecimal negative c k), rest) := by
  have hpos : 0 < (natText c).length := List.length_pos_iff.2 (natText_ne_nil c)
  have htext : ∀ power, scientific (natText c) power =
      (natText c).take 1 ++ (if ((natText c).drop 1).isEmpty then [] else '.' :: (natText c).drop 1)
        ++ exponentText power := fun power => by
    rw [scientific, exponentText, ← List.append_assoc]
  have hwhole : IsWhole ((natText c).take 1) := isWhole_take hc (by decide)
  rw [htext]
  split
  · next hempty =>
    rw [List.isEmpty_iff, List.drop_eq_nil_iff] at hempty
    rw [List.append_nil, readMagnitude?_exponent hwhole _ h, List.take_of_length_le hempty,
      ofDigitChars_natText]
    congr 4
    omega
  · next hmore =>
    rw [List.isEmpty_iff] at hmore
    rw [readMagnitude?_fraction_exponent hwhole hmore
      (fun d hd => isDigit_of_mem_natText (List.mem_of_mem_drop hd)) _ h, List.take_append_drop,
      ofDigitChars_natText, List.length_drop]
    congr 4
    omega

/-- **The text of a decimal is read as a decimal of the same value.** -/
theorem readMagnitude?_magnitudeText (negative : Bool) {d : Decimal}
    (hd : d.coefficient = 0 → d.exponent = 0) (h : Follows rest) :
    ∃ c k, readMagnitude? negative (magnitudeText d ++ rest) =
        some (.float (.ofDecimal negative c k), rest) ∧ Decimal.value ⟨c, k⟩ = d.value := by
  obtain ⟨c, k⟩ := d
  by_cases hc : c = 0
  · subst hc
    obtain rfl := hd rfl
    have htext : magnitudeText ⟨0, 0⟩ = ['0'] ++ '.' :: ['0'] := by decide
    have hzero : Nat.ofDigitChars 10 (['0'] ++ ['0']) 0 = 0 := by decide
    have hwhole : IsWhole ['0'] := isWhole_natText 0
    rw [htext, readMagnitude?_fraction hwhole (List.cons_ne_nil '0' []) (by simp) h, hzero]
    exact ⟨0, _, rfl, by simp [Decimal.value]⟩
  · simp only [magnitudeText, if_neg hc]
    split
    · exact readMagnitude?_positional hc k h
    · exact ⟨c, k, readMagnitude?_scientific hc k h, rfl⟩

/-! ## Numbers and words -/

/-- No word begins with a digit, nor with a minus sign before a digit. -/
theorem readWord?_eq_none {d : Char} {s sign : List Char} (hd : d.isDigit = true)
    (hsign : sign = [] ∨ sign = ['-']) : readWord? (sign ++ d :: s) words = none := by
  have hne : ∀ c : Char, c.isDigit = false → c ≠ d := by
    rintro c hc rfl
    rw [hd] at hc
    cases hc
  have hletters := And.intro (hne 'n' rfl) (And.intro (hne 't' rfl) (And.intro (hne 'f' rfl)
    (And.intro (hne 'N' rfl) (And.intro (hne 'I' rfl) (hne '-' rfl)))))
  obtain ⟨hn, ht, hf, hN, hI, hminus⟩ := hletters
  obtain rfl | rfl := hsign <;>
    simp [words, readWord?, after?, hn, ht, hf, hN, hI, hminus]

theorem exists_digit_of_readMagnitude? {s : List Char} {r : Json × List Char}
    (h : readMagnitude? negative s = some r) : ∃ d t, s = d :: t ∧ d.isDigit = true := by
  unfold readMagnitude? takeWhole at h
  split at h
  · cases h
  · next hw =>
    split at hw
    · exact ⟨'0', _, rfl, rfl⟩
    · next c more _ =>
      split at hw
      · exact ⟨c, more, rfl, ‹_›⟩
      · cases hw
    · cases hw

/-- A number is read by its sign and its magnitude. -/
theorem readPlain?_of_magnitude {s : List Char} {r : Json × List Char}
    (h : readMagnitude? negative s = some r) :
    readPlain? (Binary64.signText negative ++ s) = some r := by
  obtain ⟨d, t, rfl, hd⟩ := exists_digit_of_readMagnitude? h
  have hsign : Binary64.signText negative = [] ∨ Binary64.signText negative = ['-'] := by
    cases negative
    · exact .inl rfl
    · exact .inr rfl
  rw [readPlain?, readWord?_eq_none hd hsign]
  cases negative
  · have hminus : d ≠ '-' := by
      rintro rfl
      cases hd
    simp only [Binary64.signText, Bool.false_eq_true, if_false, List.nil_append]
    rw [readNumber?, h]
    rintro more hmore
    exact hminus (List.cons.inj hmore).1
  · exact h

/-- **Integers are read back.** -/
theorem readPlain?_intText (n : Int) (h : Follows rest) :
    readPlain? (intText n ++ rest) = some (.int n, rest) := by
  have htext : intText n = Binary64.signText (decide (n < 0)) ++ natText n.natAbs := by
    by_cases hn : n < 0 <;> simp [intText, Binary64.signText, hn]
  have hread := readMagnitude?_natText (decide (n < 0)) n.natAbs h
  rw [htext, List.append_assoc, readPlain?_of_magnitude hread]
  congr 3
  by_cases hn : n < 0
  · simp only [hn, decide_true, if_true]
    omega
  · simp only [hn, decide_false, Bool.false_eq_true, if_false]
    omega

/-- An integer with nothing behind it is read back to its end. -/
theorem readPlain?_intText_end (n : Int) : readPlain? (intText n) = some (.int n, []) := by
  have hend : Follows ([] : List Char) := by simp [Follows]
  have hread := readPlain?_intText n hend
  rwa [List.append_nil] at hread

/-- **Floating-point numbers are read back**, those that are not finite by their names. -/
theorem readPlain?_writeFloat {x : Binary64} (hx : x.IsProper) (h : Follows rest) :
    readPlain? (writeFloat x ++ rest) = some (.float x, rest) := by
  cases x with
  | nan => rfl
  | infinity negative => cases negative <;> rfl
  | finite negative m e =>
    have hzero : (shortestDecimal m e).coefficient = 0 → (shortestDecimal m e).exponent = 0 := by
      intro hc
      by_cases hm : m = 0
      · rw [hm]
        rfl
      · have hpos := (near_shortestDecimal hm hx).pos hm
        simp [Decimal.value, hc] at hpos
    obtain ⟨c, k, hread, hvalue⟩ := readMagnitude?_magnitudeText negative hzero h
    have htext : writeFloat (.finite negative m e) =
        Binary64.signText negative ++ magnitudeText (shortestDecimal m e) := rfl
    rw [htext, List.append_assoc, readPlain?_of_magnitude hread]
    by_cases hm : m = 0
    · subst hm
      obtain ⟨-, -, -, rfl | hbig⟩ := hx
      · have hvalue : (c : ℚ) * 10 ^ k = 0 := by simpa [Decimal.value, shortestDecimal] using hvalue
        have hc : c = 0 := by
          have hten : (10 : ℚ) ^ k ≠ 0 := zpow_ne_zero _ (by norm_num)
          exact_mod_cast (mul_eq_zero.1 hvalue).resolve_right hten
        rw [hc, Binary64.ofDecimal, if_pos rfl]
        rfl
      · exact absurd (twoTo_pos 52) (Nat.not_lt.2 hbig)
    · rw [ofDecimal_shortestDecimal hm hx hvalue]

end MovePlan.Json
