import Mathlib.Algebra.Order.Field.Power
import Mathlib.Data.Rat.Defs
import Mathlib.Tactic.FieldSimp
import Mathlib.Tactic.Linarith
import Mathlib.Tactic.Positivity
import Mathlib.Tactic.Ring
import MovePlan.Numeric.Binary64

/-!
# What a quotient is rounded to

A number `m · 2 ^ e` stands for all quotients that lie nearer to it than to its neighbours; those
half way to a neighbour belong to the even mantissa. Below a power of two the neighbour is only half
as far away. `Near` says this of rational numbers, and whatever is near to a number is rounded to it
(`ofQuotient_of_near`). What rounding gives has always a mantissa and an exponent of the format
(`isProper_ofQuotient`).
-/

namespace MovePlan.Numeric

/-! ## Quotients in units -/

theorem twoTo_cast (n : Nat) : (twoTo n : ℚ) = 2 ^ n := by simp [twoTo]

theorem tenTo_cast (n : Nat) : (tenTo n : ℚ) = 10 ^ n := by simp [tenTo]

/-- A power with an integer exponent as a quotient of powers with natural ones. -/
theorem zpow_eq_div_toNat {b : ℚ} (hb : b ≠ 0) (e : ℤ) :
    b ^ e = b ^ e.toNat / b ^ (-e).toNat := by
  rw [eq_div_iff (pow_ne_zero _ hb), ← zpow_natCast, ← zpow_natCast, ← zpow_add₀ hb]
  congr 1
  omega

/-- The quotient in units of a power of two, as a rational. -/
theorem inUnitsOfTwo_eq (num den : Nat) (e : ℤ) :
    ((inUnitsOfTwo num den e).1 : ℚ) / (inUnitsOfTwo num den e).2 = num / den / 2 ^ e := by
  rw [zpow_eq_div_toNat two_ne_zero, inUnitsOfTwo]
  push_cast [twoTo_cast]
  rw [div_div_eq_mul_div, div_mul_eq_mul_div, div_div]

theorem inUnitsOfTwo_snd_pos {den : Nat} (hden : 0 < den) (num : Nat) (e : ℤ) :
    0 < (inUnitsOfTwo num den e).2 := Nat.mul_pos hden (twoTo_pos _)

/-! ## The nearest integer -/

/-- Whether an integer is nearest to a quotient: half way between two integers, the even one. -/
structure IsNearest (m : Nat) (x : ℚ) : Prop where
  low : (m : ℚ) - 1 / 2 ≤ x
  high : x ≤ m + 1 / 2
  even : (m : ℚ) - 1 / 2 = x ∨ x = m + 1 / 2 → m % 2 = 0

section

variable {num den m n k : Nat} {x : ℚ}

/-- **A quotient is rounded to the nearest integer.** -/
theorem isNearest_roundQuotient (num : Nat) (hden : 0 < den) :
    IsNearest (roundQuotient num den) (num / den) := by
  have hpos : (0 : ℚ) < den := by exact_mod_cast hden
  -- what is left above the integer below
  have hsplit : (num / den : ℚ) = (num / den : Nat) + (num % den : Nat) / den := by
    rw [div_eq_iff hpos.ne', add_mul, div_mul_cancel₀ _ hpos.ne', mul_comm]
    exact_mod_cast (Nat.div_add_mod num den).symm
  have hnonneg : (0 : ℚ) ≤ (num % den : Nat) / den := by positivity
  have hless : ((num % den : Nat) / den : ℚ) < 1 := by
    rw [div_lt_one hpos]
    exact_mod_cast Nat.mod_lt num hden
  have hmore : (1 / 2 : ℚ) < (num % den : Nat) / den ↔ den < 2 * (num % den) := by
    rw [div_lt_div_iff₀ two_pos hpos, one_mul, mul_comm]
    exact_mod_cast Iff.rfl
  have hhalf : (1 / 2 : ℚ) = (num % den : Nat) / den ↔ den = 2 * (num % den) := by
    rw [div_eq_div_iff two_ne_zero hpos.ne', one_mul, mul_comm]
    exact_mod_cast Iff.rfl
  rw [hsplit, roundQuotient]
  generalize ((num % den : Nat) / den : ℚ) = left at hnonneg hless hmore hhalf ⊢
  split
  · next hup =>
    simp only [Bool.or_eq_true, decide_eq_true_eq, Bool.and_eq_true, beq_iff_eq, ← hmore,
      ← hhalf] at hup
    have hge : (1 / 2 : ℚ) ≤ left := hup.elim le_of_lt fun h => h.1.le
    refine ⟨by push_cast; linarith, by push_cast; linarith, fun hend => ?_⟩
    push_cast at hend
    obtain hmiddle | ⟨-, hodd⟩ := hup
    · exact absurd hend (by rintro (h | h) <;> linarith)
    · omega
  · next hdown =>
    simp only [Bool.or_eq_true, decide_eq_true_eq, Bool.and_eq_true, beq_iff_eq, ← hmore, ← hhalf,
      not_or, not_lt, not_and] at hdown
    refine ⟨by linarith, by linarith [hdown.1], fun hend => ?_⟩
    have heq : (1 / 2 : ℚ) = left := by obtain h | h := hend <;> linarith
    have hodd := hdown.2 heq
    omega

/-- Of two nearest integers none is the greater one: the quotient would lie half way between them, and
both would be even. -/
theorem IsNearest.le (hm : IsNearest m x) (hn : IsNearest n x) : m ≤ n := by
  by_contra hlt
  have hstep : (n : ℚ) + 1 ≤ m := by exact_mod_cast not_le.1 hlt
  have hlow := hm.low
  have hhigh := hn.high
  have hm_even := hm.even (.inl (by linarith))
  have hn_even := hn.even (.inr (by linarith))
  have hnext : m = n + 1 := by
    have hcast : (m : ℚ) = n + 1 := by linarith
    exact_mod_cast hcast
  omega

/-- An integer to which a quotient is nearest is the one that it is rounded to. -/
theorem IsNearest.roundQuotient_eq (h : IsNearest m (num / den)) (hden : 0 < den) :
    roundQuotient num den = m :=
  le_antisymm ((isNearest_roundQuotient num hden).le h) (h.le (isNearest_roundQuotient num hden))

/-- Rounding never passes an integer from below. -/
theorem IsNearest.le_of_lt (h : IsNearest m x) (hx : x < k) : m ≤ k := by
  by_contra hlt
  have hstep : (k : ℚ) + 1 ≤ m := by exact_mod_cast not_le.1 hlt
  linarith [h.low]

/-- Rounding never passes an integer from above. -/
theorem IsNearest.le_of_le (h : IsNearest m x) (hx : k ≤ x) : k ≤ m := by
  by_contra hlt
  have hstep : (m : ℚ) + 1 ≤ k := by exact_mod_cast not_le.1 hlt
  linarith [h.high]

end

namespace Binary64

/-! ## Numbers of the format -/

/-- Whether a number is one of the format: an exponent within the limits, and a mantissa with its
top bit set unless the exponent is the least one. -/
def IsProper : Binary64 → Prop
  | finite _ m e => m < twoTo 53 ∧ leastExponent ≤ e ∧ e ≤ greatestExponent ∧
      (e = leastExponent ∨ twoTo 52 ≤ m)
  | _ => True

/-- Whether the exponent is the one that a quotient is rounded at. -/
def IsExponent (x : ℚ) (e : ℤ) : Prop :=
  leastExponent ≤ e ∧ x < 2 ^ 53 * 2 ^ e ∧ (e = leastExponent ∨ 2 ^ 52 * 2 ^ e ≤ x)

/-- There is one exponent for each number. -/
theorem IsExponent.unique {x : ℚ} {e f : ℤ} (h : IsExponent x e) (h' : IsExponent x f) : e = f := by
  -- the lesser exponent leaves no room for the mantissa of the greater one
  have hlt : ∀ {e f : ℤ}, IsExponent x e → IsExponent x f → ¬ e < f := by
    intro e f he hf hlt
    have hleast := he.1
    obtain ⟨-, -, hf | hf⟩ := hf
    · omega
    · have hstep : (2 : ℚ) ^ (e + 1) ≤ 2 ^ f := zpow_le_zpow_right₀ (by norm_num) hlt
      rw [zpow_add_one₀ two_ne_zero] at hstep
      linarith [he.2.1]
  exact le_antisymm (not_lt.1 (hlt h' h)) (not_lt.1 (hlt h h'))

/-- A quotient lies within a factor of two around the quotient of the powers of two below its
sides. -/
theorem quotient_bounds {num den : Nat} (hnum : num ≠ 0) (hden : den ≠ 0) {d : ℤ}
    (hd : d = (Nat.log2 num : ℤ) - Nat.log2 den) :
    (2 : ℚ) ^ (d - 1) ≤ num / den ∧ (num / den : ℚ) < 2 ^ (d + 1) := by
  have hbounds : ∀ {n : Nat}, n ≠ 0 →
      (2 : ℚ) ^ (Nat.log2 n : ℤ) ≤ n ∧ (n : ℚ) < 2 ^ ((Nat.log2 n : ℤ) + 1) := by
    intro n hn
    rw [← Nat.cast_succ, zpow_natCast, zpow_natCast]
    exact ⟨by exact_mod_cast Nat.log2_self_le hn, by exact_mod_cast Nat.lt_log2_self⟩
  obtain ⟨hn, hn'⟩ := hbounds hnum
  obtain ⟨hd1, hd2⟩ := hbounds hden
  have hpos : (0 : ℚ) < den := by exact_mod_cast Nat.pos_of_ne_zero hden
  have hsplit : ∀ i j k : ℤ, i = j + k → (2 : ℚ) ^ i = 2 ^ j * 2 ^ k := fun i j k h => by
    rw [h, zpow_add₀ two_ne_zero]
  constructor
  · rw [le_div_iff₀ hpos]
    calc (2 : ℚ) ^ (d - 1) * den ≤ 2 ^ (d - 1) * 2 ^ ((Nat.log2 den : ℤ) + 1) := by gcongr
      _ = 2 ^ (Nat.log2 num : ℤ) := (hsplit _ _ _ (by omega)).symm
      _ ≤ num := hn
  · rw [div_lt_iff₀ hpos]
    calc (num : ℚ) < 2 ^ ((Nat.log2 num : ℤ) + 1) := hn'
      _ = 2 ^ (d + 1) * 2 ^ (Nat.log2 den : ℤ) := hsplit _ _ _ (by omega)
      _ ≤ 2 ^ (d + 1) * den := by gcongr

theorem pow_mul_zpow (k : Nat) (i : ℤ) : (2 : ℚ) ^ k * 2 ^ i = 2 ^ ((k : ℤ) + i) := by
  rw [zpow_add₀ two_ne_zero, zpow_natCast]

/-- The exponent that is estimated and then corrected is the right one. -/
theorem isExponent_exponentFor {num den : Nat} (hnum : num ≠ 0) (hden : den ≠ 0) :
    IsExponent (num / den) (exponentFor num den) := by
  set e : ℤ := (Nat.log2 num : ℤ) - Nat.log2 den - 52 with he
  obtain ⟨hlow, hhigh⟩ := quotient_bounds hnum hden rfl
  -- the test compares the quotient with the least mantissa of 53 bits at the first exponent
  have htest : (inUnitsOfTwo num den e).1 < twoTo 52 * (inUnitsOfTwo num den e).2 ↔
      (num / den : ℚ) < 2 ^ 52 * 2 ^ e := by
    have hpos : (0 : ℚ) < (inUnitsOfTwo num den e).2 := by
      exact_mod_cast inUnitsOfTwo_snd_pos (Nat.pos_of_ne_zero hden) num e
    rw [← div_lt_iff₀ (zpow_pos two_pos e), ← inUnitsOfTwo_eq, div_lt_iff₀ hpos, ← twoTo_cast]
    exact_mod_cast Iff.rfl
  have hchosen : ∃ i : ℤ, exponentFor num den = max leastExponent i ∧
      (num / den : ℚ) < 2 ^ 53 * 2 ^ i ∧ (2 : ℚ) ^ 52 * 2 ^ i ≤ num / den := by
    by_cases h : (num / den : ℚ) < 2 ^ 52 * 2 ^ e
    · have hexp : ((53 : Nat) : ℤ) + (e - 1) = ((52 : Nat) : ℤ) + e := by push_cast; ring
      have hexp' : ((52 : Nat) : ℤ) + (e - 1) = (Nat.log2 num : ℤ) - Nat.log2 den - 1 := by
        push_cast
        omega
      refine ⟨e - 1, ?_, ?_, ?_⟩
      · simp only [exponentFor, ← he, if_pos (htest.2 h)]
      · rwa [pow_mul_zpow, hexp, ← pow_mul_zpow]
      · rwa [pow_mul_zpow, hexp']
    · have hexp : ((53 : Nat) : ℤ) + e = (Nat.log2 num : ℤ) - Nat.log2 den + 1 := by
        push_cast
        omega
      refine ⟨e, ?_, ?_, not_lt.1 h⟩
      · simp only [exponentFor, ← he, if_neg (htest.not.2 h)]
      · rwa [pow_mul_zpow, hexp]
  obtain ⟨i, hi, hupper, hlower⟩ := hchosen
  rw [hi]
  have hstep : (2 : ℚ) ^ i ≤ 2 ^ max leastExponent i :=
    zpow_le_zpow_right₀ (by norm_num) (le_max_right _ _)
  refine ⟨le_max_left _ _, hupper.trans_le (by gcongr), ?_⟩
  obtain h | h := le_total leastExponent i
  · rw [max_eq_right h]
    exact .inr hlower
  · exact .inl (max_eq_left h)

/-- In units of the last place, a number has no more than its bits. -/
theorem div_zpow_bounds {x : ℚ} {e : ℤ} (h : IsExponent x e) :
    x / 2 ^ e < 2 ^ 53 ∧ (e = leastExponent ∨ 2 ^ 52 ≤ x / 2 ^ e) := by
  have hpos : (0 : ℚ) < 2 ^ e := zpow_pos two_pos e
  rw [div_lt_iff₀ hpos, le_div_iff₀ hpos]
  exact h.2

theorem isProper_zero (negative : Bool) : IsProper (zero negative) :=
  ⟨by decide, le_rfl, by decide, .inl rfl⟩

/-- **Rounding keeps to the format.** -/
theorem isProper_ofQuotient (negative : Bool) (num : Nat) {den : Nat} (hden : den ≠ 0) :
    IsProper (ofQuotient negative num den) := by
  rw [ofQuotient]
  split
  · exact isProper_zero negative
  · next hnum =>
    have hexp := isExponent_exponentFor hnum hden
    generalize exponentFor num den = e at hexp ⊢
    have hpos := inUnitsOfTwo_snd_pos (Nat.pos_of_ne_zero hden) num e
    obtain ⟨hhigh, hlow⟩ := div_zpow_bounds hexp
    rw [← inUnitsOfTwo_eq, ← twoTo_cast] at hhigh hlow
    have hnearest := isNearest_roundQuotient (inUnitsOfTwo num den e).1 hpos
    have hle := hnearest.le_of_lt hhigh
    have hge := hlow.imp_right hnearest.le_of_le
    obtain ⟨hleast, -, -⟩ := hexp
    simp only
    split <;> split
    · trivial
    · next hcarry hgreat =>
      exact ⟨(by decide : twoTo 52 < twoTo 53), by omega, not_lt.1 hgreat, .inr le_rfl⟩
    · trivial
    · next hcarry hgreat => exact ⟨lt_of_le_of_ne hle hcarry, hleast, not_lt.1 hgreat, hge⟩

/-- Every decimal number is rounded to a proper one. -/
theorem isProper_ofDecimal (negative : Bool) (c : Nat) (k : ℤ) :
    IsProper (ofDecimal negative c k) := by
  rw [ofDecimal]
  split
  · exact isProper_zero negative
  · dsimp only
    split
    · trivial
    · split
      · exact isProper_zero negative
      · exact isProper_ofQuotient negative _ (tenTo_pos _).ne'

theorem isProper_of_divInt? {a b : ℤ} {x : Binary64} (hb : b ≠ 0) (h : divInt? a b = some x) :
    IsProper x := by
  rw [divInt?] at h
  split at h
  · cases h
  · cases h
    exact isProper_ofQuotient _ _ (Int.natAbs_ne_zero.2 hb)

/-- Rounding to decimal places keeps numbers proper. -/
theorem isProper_roundPlaces (places : Nat) (x : Binary64) : IsProper (roundPlaces places x) := by
  cases x with
  | finite negative m e =>
    rw [roundPlaces]
    exact isProper_ofQuotient negative _ (tenTo_pos places).ne'
  | _ => trivial

/-! ## What is nearest to a number -/

/-- How far below a number lie those that are rounded to it. -/
def gapBelow (m : Nat) (e : ℤ) : ℚ :=
  if m = twoTo 52 ∧ leastExponent < e then 2 ^ e / 4 else 2 ^ e / 2

/-- Whether a quotient lies nearest to `m · 2 ^ e` among the numbers of the format. -/
structure Near (m : Nat) (e : ℤ) (x : ℚ) : Prop where
  low : m * 2 ^ e - gapBelow m e ≤ x
  high : x ≤ m * 2 ^ e + 2 ^ e / 2
  even : x = m * 2 ^ e - gapBelow m e ∨ x = m * 2 ^ e + 2 ^ e / 2 → m % 2 = 0

variable {m : Nat} {e : ℤ} {x : ℚ}

theorem gapBelow_le (m : Nat) (e : ℤ) : gapBelow m e ≤ 2 ^ e / 2 := by
  have hpos : (0 : ℚ) < 2 ^ e := zpow_pos two_pos e
  rw [gapBelow]
  split <;> linarith

theorem gapBelow_pos (m : Nat) (e : ℤ) : 0 < gapBelow m e := by
  have hpos : (0 : ℚ) < 2 ^ e := zpow_pos two_pos e
  rw [gapBelow]
  split <;> linarith

/-- What is less than half a gap away is near. -/
theorem near_of_between (h : m * 2 ^ e - gapBelow m e < x) (h' : x < m * 2 ^ e + 2 ^ e / 2) :
    Near m e x :=
  ⟨h.le, h'.le, fun hend => (hend.elim h.ne' h'.ne).elim⟩

theorem Near.pos (h : Near m e x) (hm : m ≠ 0) : 0 < x := by
  have hpos : (0 : ℚ) < 2 ^ e := zpow_pos two_pos e
  have hone : (1 : ℚ) ≤ m := by exact_mod_cast Nat.one_le_iff_ne_zero.2 hm
  nlinarith [h.low, gapBelow_le m e]

/-- In units of its exponent, what is near to a number is nearest to the mantissa. -/
theorem Near.isNearest (h : Near m e x) : IsNearest m (x / 2 ^ e) := by
  have hpos : (0 : ℚ) < 2 ^ e := zpow_pos two_pos e
  have hgap := gapBelow_le m e
  refine ⟨?_, ?_, ?_⟩
  · rw [le_div_iff₀ hpos]
    linarith [h.low]
  · rw [div_le_iff₀ hpos]
    linarith [h.high]
  rw [eq_div_iff hpos.ne', div_eq_iff hpos.ne']
  rintro (heq | heq)
  · exact h.even (.inl (le_antisymm (by linarith [h.low]) h.low))
  · exact h.even (.inr (by linarith))

/-- What is near to a number is rounded at its exponent, unless the number is a power of two and the
quotient lies below it. -/
theorem Near.isExponent_or (h : Near m e x) {negative : Bool} (hp : IsProper (finite negative m e)) :
    IsExponent x e ∨ m = twoTo 52 ∧ leastExponent < e ∧ x < 2 ^ 52 * 2 ^ e := by
  obtain ⟨hm, hleast, -, hform⟩ := hp
  have hpos : (0 : ℚ) < 2 ^ e := zpow_pos two_pos e
  have hm' : (m : ℚ) + 1 ≤ 2 ^ 53 := by
    rw [← twoTo_cast]
    exact_mod_cast hm
  have hupper : x < 2 ^ 53 * 2 ^ e := by nlinarith [h.high]
  obtain rfl | hlt := hleast.eq_or_lt
  · exact .inl ⟨le_rfl, hupper, .inl rfl⟩
  · have hbig : twoTo 52 ≤ m := hform.resolve_left hlt.ne'
    obtain heq | hgt := hbig.eq_or_lt
    · obtain hx | hx := lt_or_ge x (2 ^ 52 * 2 ^ e)
      · exact .inr ⟨heq.symm, hlt, hx⟩
      · exact .inl ⟨hleast, hupper, .inr hx⟩
    · have hgt' : (2 : ℚ) ^ 52 + 1 ≤ m := by
        rw [← twoTo_cast]
        exact_mod_cast hgt
      exact .inl ⟨hleast, hupper, .inr (by nlinarith [h.low, gapBelow_le m e])⟩

/-- **What is nearest to a number is rounded to it.** -/
theorem ofQuotient_of_near {negative : Bool} {num den : Nat} (hden : den ≠ 0) (hm : m ≠ 0)
    (hp : IsProper (finite negative m e)) (h : Near m e (num / den)) :
    ofQuotient negative num den = finite negative m e := by
  have hnum : num ≠ 0 := by
    rintro rfl
    simpa using h.pos hm
  have hexp := isExponent_exponentFor hnum hden
  have hunits := fun i => inUnitsOfTwo_snd_pos (Nat.pos_of_ne_zero hden) num i
  have hlt : m < twoTo 53 := hp.1
  have hgreat : e ≤ greatestExponent := hp.2.2.1
  rw [ofQuotient, if_neg hnum]
  obtain he | ⟨rfl, habove, hx⟩ := h.isExponent_or hp
  · rw [hexp.unique he]
    have hnearest := h.isNearest
    rw [← inUnitsOfTwo_eq] at hnearest
    simp only [hnearest.roundQuotient_eq (hunits e), if_neg hlt.ne, if_neg (not_lt.2 hgreat)]
  · -- below a power of two the exponent is one less and the rounding carries
    have hpos : (0 : ℚ) < 2 ^ (e - 1) := zpow_pos two_pos _
    have hdouble : (2 : ℚ) ^ e = 2 * 2 ^ (e - 1) := by
      rw [← zpow_one_add₀ two_ne_zero]
      congr 1
      omega
    have hlow := h.low
    rw [gapBelow, if_pos ⟨rfl, habove⟩, twoTo_cast, hdouble] at hlow
    rw [hdouble] at hx
    have he : IsExponent (num / den : ℚ) (e - 1) :=
      ⟨by omega, by linarith, .inr (by linarith)⟩
    have hnearest : IsNearest (twoTo 53) (num / den / 2 ^ (e - 1)) := by
      refine ⟨?_, ?_, fun _ => by decide⟩
      · rw [le_div_iff₀ hpos, twoTo_cast]
        linarith
      · rw [div_le_iff₀ hpos, twoTo_cast]
        linarith
    rw [hexp.unique he]
    rw [← inUnitsOfTwo_eq] at hnearest
    have hround := hnearest.roundQuotient_eq (hunits (e - 1))
    have hback : e - 1 + 1 = e := by omega
    simp only [hround, if_true, hback, if_neg (not_lt.2 hgreat)]

end Binary64

end MovePlan.Numeric
