import MovePlan.Numeric.Shortest
import MovePlan.Proofs.Numeric.Rounding

/-!
# The shortest decimal is read as the number it stands for

The search for the shortest decimal goes through the grids of one digit to seventeen. What it takes
from a grid is near to the number; that the last grid has something to be taken is the reason why it
always ends with an answer. There the points lie closer than the numbers: seventeen digits of a
value below `2 ^ 53` units are finer than one unit. The decimal so found is near to the number, and
so is read as it (`ofDecimal_shortestDecimal`), in whatever form it is written.
-/

namespace MovePlan.Numeric

/-- The number that a decimal stands for. -/
def Decimal.value (d : Decimal) : ℚ := d.coefficient * 10 ^ d.exponent

/-! ## Powers of two and ten -/

theorem twoTo_toNat (i : ℤ) : (twoTo i.toNat : ℚ) = 2 ^ i * twoTo (-i).toNat := by
  rw [twoTo_cast, twoTo_cast, zpow_eq_div_toNat two_ne_zero i,
    div_mul_cancel₀ _ (pow_ne_zero _ two_ne_zero)]

theorem tenTo_toNat (k : ℤ) : (tenTo k.toNat : ℚ) = 10 ^ k * tenTo (-k).toNat := by
  rw [tenTo_cast, tenTo_cast, zpow_eq_div_toNat (by norm_num) k,
    div_mul_cancel₀ _ (pow_ne_zero _ (by norm_num))]

/-- The factor that makes both a power of two and one of ten to natural numbers. -/
theorem scale_pos (i k : ℤ) : (0 : ℚ) < twoTo (-i).toNat * tenTo (-k).toNat :=
  mul_pos (by exact_mod_cast twoTo_pos _) (by exact_mod_cast tenTo_pos _)

theorem scaled_two (a : Nat) (i k : ℤ) :
    ((a * twoTo i.toNat * tenTo (-k).toNat : Nat) : ℚ) =
      a * 2 ^ i * (twoTo (-i).toNat * tenTo (-k).toNat) := by
  push_cast [twoTo_toNat i]
  ring

theorem scaled_ten (c : Nat) (i k : ℤ) :
    ((c * tenTo k.toNat * twoTo (-i).toNat : Nat) : ℚ) =
      c * 10 ^ k * (twoTo (-i).toNat * tenTo (-k).toNat) := by
  push_cast [tenTo_toNat k]
  ring

theorem scaled_le_iff (a c : Nat) (i k : ℤ) :
    a * twoTo i.toNat * tenTo (-k).toNat ≤ c * tenTo k.toNat * twoTo (-i).toNat ↔
      (a * 2 ^ i : ℚ) ≤ c * 10 ^ k := by
  rw [← mul_le_mul_iff_left₀ (scale_pos i k), ← scaled_two, ← scaled_ten, Nat.cast_le]

theorem scaled_ge_iff (a c : Nat) (i k : ℤ) :
    c * tenTo k.toNat * twoTo (-i).toNat ≤ a * twoTo i.toNat * tenTo (-k).toNat ↔
      (c * 10 ^ k : ℚ) ≤ a * 2 ^ i := by
  rw [← mul_le_mul_iff_left₀ (scale_pos i k), ← scaled_two, ← scaled_ten, Nat.cast_le]

/-- Between the powers of two and ten: `31 / 103` and `28 / 93` lie on both sides of the logarithm
of two. -/
theorem ten_zpow_le_two_zpow {p l : ℤ} (h : 103 * p ≤ 31 * l) (h' : 93 * p ≤ 28 * l) :
    (10 : ℚ) ^ p ≤ 2 ^ l := by
  obtain hp | hp := le_total 0 p
  · obtain ⟨n, rfl⟩ := Int.eq_ofNat_of_zero_le hp
    refine le_of_pow_le_pow_left₀ (n := 31) (by norm_num) (zpow_nonneg (by norm_num) _) ?_
    calc ((10 : ℚ) ^ (n : ℤ)) ^ 31 = (10 ^ 31) ^ n := by
          rw [zpow_natCast, ← pow_mul, ← pow_mul, mul_comm]
      _ ≤ (2 ^ 103) ^ n := by gcongr; norm_num
      _ = 2 ^ (103 * (n : ℤ)) := by rw [zpow_mul, zpow_natCast]; norm_num
      _ ≤ 2 ^ (31 * l) := zpow_le_zpow_right₀ (by norm_num) h
      _ = (2 ^ l) ^ 31 := by rw [mul_comm, zpow_mul]; norm_cast
  · obtain ⟨n, hn⟩ := Int.eq_ofNat_of_zero_le (neg_nonneg.2 hp)
    obtain rfl : p = -n := by omega
    refine le_of_pow_le_pow_left₀ (n := 28) (by norm_num) (zpow_nonneg (by norm_num) _) ?_
    calc ((10 : ℚ) ^ (-(n : ℤ))) ^ 28 = ((10 ^ 28) ^ n)⁻¹ := by
          rw [zpow_neg, zpow_natCast, inv_pow, ← pow_mul, ← pow_mul, mul_comm]
      _ ≤ ((2 ^ 93) ^ n)⁻¹ := by gcongr; norm_num
      _ = 2 ^ (93 * (-(n : ℤ))) := by rw [zpow_mul, zpow_neg, zpow_natCast]; norm_num
      _ ≤ 2 ^ (28 * l) := zpow_le_zpow_right₀ (by norm_num) h'
      _ = (2 ^ l) ^ 28 := by rw [mul_comm, zpow_mul]; norm_cast

namespace Shortest

open Binary64 (Near IsProper gapBelow gapBelow_pos near_of_between leastExponent greatestExponent)

variable {m c : Nat} {e k : ℤ} {negative : Bool}

/-! ## What is taken from a grid -/

theorem unit_eq (e : ℤ) : (2 : ℚ) ^ e = 4 * 2 ^ (e - 2) := by
  rw [zpow_sub₀ two_ne_zero]
  norm_num
  ring

theorem value_mul_zpow (m : Nat) (e : ℤ) :
    ((Interval.of m e).value : ℚ) * 2 ^ (Interval.of m e).exponent = m * 2 ^ e := by
  simp only [Interval.of]
  rw [unit_eq e]
  push_cast
  ring

/-- The interval of a number holds the decimals that are near to it. -/
theorem holds_iff (hm : m ≠ 0) : (Interval.of m e).holds c k = true ↔ Near m e (c * 10 ^ k) := by
  have hlow : ((Interval.of m e).low : ℚ) * 2 ^ (e - 2) = m * 2 ^ e - gapBelow m e := by
    have hgap : (if m = twoTo 52 ∧ leastExponent < e then 1 else 2) ≤ 4 * m := by split <;> omega
    simp only [Interval.of]
    rw [Nat.cast_sub hgap, gapBelow, unit_eq e]
    split <;> push_cast <;> ring
  have hhigh : ((Interval.of m e).high : ℚ) * 2 ^ (e - 2) = m * 2 ^ e + 2 ^ e / 2 := by
    simp only [Interval.of]
    rw [unit_eq e]
    push_cast
    ring
  have hless := scaled_le_iff (Interval.of m e).low c (e - 2) k
  have hmore := scaled_ge_iff (Interval.of m e).high c (e - 2) k
  have hless' := (scaled_ge_iff (Interval.of m e).low c (e - 2) k).not
  have hmore' := (scaled_le_iff (Interval.of m e).high c (e - 2) k).not
  rw [not_le, not_le] at hless' hmore'
  rw [hlow] at hless hless'
  rw [hhigh] at hmore hmore'
  have hexp : (Interval.of m e).exponent = e - 2 := rfl
  have hclosed : (Interval.of m e).closed = (m % 2 == 0) := rfl
  rw [Interval.holds, hexp, hclosed]
  simp only [← mul_assoc]
  by_cases heven : m % 2 = 0
  · simp only [heven, beq_self_eq_true, if_true, Bool.and_eq_true, decide_eq_true_eq, hless, hmore]
    exact ⟨fun h => ⟨h.1, h.2, fun _ => heven⟩, fun h => ⟨h.low, h.high⟩⟩
  · have hodd : (m % 2 == 0) = false := by simpa using heven
    simp only [hodd, Bool.false_eq_true, if_false, Bool.and_eq_true, decide_eq_true_eq, hless',
      hmore']
    constructor
    · exact fun h => ⟨h.1.le, h.2.le, fun hend => (hend.elim h.1.ne' h.2.ne).elim⟩
    · exact fun h => ⟨h.low.lt_of_ne fun he => heven (h.even (.inl he.symm)),
        h.high.lt_of_ne fun he => heven (h.even (.inr he))⟩

/-- What is taken from a grid is near to the number. -/
theorem near_of_onGrid (hm : m ≠ 0) {d : Decimal} (h : (Interval.of m e).onGrid k = some d) :
    Near m e d.value := by
  rw [Interval.onGrid] at h
  generalize (Interval.of m e).value * twoTo (Interval.of m e).exponent.toNat *
    tenTo (-k).toNat = num at h
  generalize tenTo k.toNat * twoTo (-(Interval.of m e).exponent).toNat = den at h
  split at h
  · next hbelow habove =>
    cases h
    obtain hr | hr := roundQuotient_eq_or num den
    · exact (holds_iff hm).1 (hr ▸ hbelow)
    · exact (holds_iff hm).1 (hr ▸ habove)
  · next hbelow habove =>
    cases h
    exact (holds_iff hm).1 hbelow
  · next hbelow habove =>
    cases h
    exact (holds_iff hm).1 habove
  · cases h

/-- A grid finer than the numbers around a number has a point near to it. -/
theorem onGrid_isSome (hm : m ≠ 0) (hfine : (10 : ℚ) ^ k < gapBelow m e + 2 ^ e / 2) :
    ((Interval.of m e).onGrid k).isSome = true := by
  have hten : (0 : ℚ) < 10 ^ k := zpow_pos (by norm_num) k
  have htwo : (0 : ℚ) < 2 ^ e := zpow_pos two_pos e
  rw [Interval.onGrid]
  set num := (Interval.of m e).value * twoTo (Interval.of m e).exponent.toNat *
    tenTo (-k).toNat with hnum
  set den := tenTo k.toNat * twoTo (-(Interval.of m e).exponent).toNat with hden
  have hdenpos : 0 < den := Nat.mul_pos (tenTo_pos _) (twoTo_pos _)
  -- the number lies between the two neighbours on the grid
  have hbelow : ((num / den : Nat) : ℚ) * 10 ^ k ≤ m * 2 ^ e := by
    rw [← value_mul_zpow, ← scaled_ge_iff, mul_assoc]
    exact Nat.div_mul_le_self num den
  have habove : (m * 2 ^ e : ℚ) < ((num / den + 1 : Nat) : ℚ) * 10 ^ k := by
    rw [← value_mul_zpow, ← not_le, ← scaled_ge_iff, mul_assoc, not_le]
    exact (Nat.lt_mul_div_succ num hdenpos).trans_eq (Nat.mul_comm _ _)
  have hnext : ((num / den + 1 : Nat) : ℚ) * 10 ^ k = (num / den : Nat) * 10 ^ k + 10 ^ k := by
    push_cast
    ring
  have hgap := gapBelow_pos m e
  -- if neither were near, the whole interval would lie between them
  obtain hlow | hlow := lt_or_ge (m * 2 ^ e - gapBelow m e) (((num / den : Nat) : ℚ) * 10 ^ k)
  · have hholds : (Interval.of m e).holds (num / den) k = true :=
      (holds_iff hm).2 (near_of_between hlow (by linarith))
    rw [hholds]
    cases (Interval.of m e).holds (num / den + 1) k <;> rfl
  · have hholds : (Interval.of m e).holds (num / den + 1) k = true :=
      (holds_iff hm).2 (near_of_between (by linarith) (by linarith))
    rw [hholds]
    cases (Interval.of m e).holds (num / den) k <;> rfl

/-! ## Seventeen digits suffice -/

/-- The estimate of the number of digits is less than one above the logarithm. -/
theorem ten_zpow_estimate_le (hm : m ≠ 0) (hp : IsProper (.finite negative m e)) {l : ℤ}
    (hl : l = (Nat.log2 (Interval.of m e).value : ℤ) + (Interval.of m e).exponent) :
    (10 : ℚ) ^ (l * 30103 / 100000 - 1) ≤ m * 2 ^ e := by
  have hvalue : (Interval.of m e).value ≠ 0 := by
    simp only [Interval.of]
    omega
  have hpow : (2 : ℚ) ^ l ≤ m * 2 ^ e := by
    rw [← value_mul_zpow, hl, zpow_add₀ two_ne_zero, zpow_natCast]
    gcongr
    exact_mod_cast Nat.log2_self_le hvalue
  have hrange : -1076 ≤ l ∧ l ≤ 1025 := by
    obtain ⟨hlt, hleast, hgreat, -⟩ := hp
    have hlog : Nat.log2 (Interval.of m e).value < 55 := by
      rw [Nat.log2_lt hvalue]
      have hquarters : (Interval.of m e).value = 4 * m := rfl
      have hfull : twoTo 53 = 9007199254740992 := by decide
      omega
    have hexp : (Interval.of m e).exponent = e - 2 := rfl
    simp only [leastExponent, greatestExponent] at hleast hgreat
    omega
  exact (ten_zpow_le_two_zpow (by omega) (by omega)).trans hpow

/-- The digits that are counted do not begin above the number. -/
theorem ten_zpow_magnitude_le (hm : m ≠ 0) (hp : IsProper (.finite negative m e)) :
    (10 : ℚ) ^ ((Interval.of m e).magnitude - 1) ≤ m * 2 ^ e := by
  have hbelow : ∀ q : ℤ, ¬ (Interval.of m e).value * twoTo (Interval.of m e).exponent.toNat *
      tenTo (-q).toNat < tenTo q.toNat * twoTo (-(Interval.of m e).exponent).toNat →
      (10 : ℚ) ^ q ≤ m * 2 ^ e := by
    intro q hq
    have hle := (scaled_ge_iff (Interval.of m e).value 1 (Interval.of m e).exponent q).1
      (by rw [one_mul]; exact not_lt.1 hq)
    rwa [value_mul_zpow, Nat.cast_one, one_mul] at hle
  set l : ℤ := (Nat.log2 (Interval.of m e).value : ℤ) + (Interval.of m e).exponent with hl
  rw [Interval.magnitude]
  simp only [← hl]
  split
  · exact ten_zpow_estimate_le hm hp hl
  · next hfirst =>
    rw [decide_eq_true_eq] at hfirst
    split
    · rw [Int.add_sub_cancel]
      exact hbelow _ hfirst
    · next hsecond =>
      rw [decide_eq_true_eq] at hsecond
      have hexp : l * 30103 / 100000 + 2 - 1 = l * 30103 / 100000 + 1 := by omega
      rw [hexp]
      exact hbelow _ hsecond

/-- Seventeen digits are finer than the numbers. -/
theorem onGrid_seventeen (hm : m ≠ 0) (hp : IsProper (.finite negative m e)) :
    ((Interval.of m e).onGrid ((Interval.of m e).magnitude - 17)).isSome = true := by
  refine onGrid_isSome hm ?_
  have hmag := ten_zpow_magnitude_le hm hp
  have hsplit : (10 : ℚ) ^ ((Interval.of m e).magnitude - 1) =
      10 ^ ((Interval.of m e).magnitude - 17) * 10 ^ 16 := by
    have hexp : (Interval.of m e).magnitude - 1 = (Interval.of m e).magnitude - 17 + (16 : Nat) := by
      push_cast
      omega
    rw [hexp, zpow_add₀ (by norm_num), zpow_natCast]
  rw [hsplit] at hmag
  have htwo : (0 : ℚ) < 2 ^ e := zpow_pos two_pos e
  rw [gapBelow]
  split
  · next hpower =>
    have hpower' : (m : ℚ) = 2 ^ 52 := by rw [hpower.1, twoTo_cast]
    rw [hpower'] at hmag
    linarith
  · have hlt : (m : ℚ) < 2 ^ 53 := by
      rw [← twoTo_cast]
      exact_mod_cast hp.1
    nlinarith

/-- The search ends at a grid. -/
theorem near_search (hm : m ≠ 0) (p : ℤ) {lengths : List Nat}
    (h : ∃ n ∈ lengths, ((Interval.of m e).onGrid (p - n)).isSome = true) :
    Near m e ((Interval.of m e).search p lengths).value := by
  induction lengths with
  | nil => simp at h
  | cons n lengths ih =>
    rw [Interval.search]
    split
    · next d hd => exact near_of_onGrid hm hd
    · next hnone =>
      obtain ⟨n', hmem, hsome⟩ := h
      obtain rfl | hmem := List.mem_cons.1 hmem
      · rw [hnone] at hsome
        cases hsome
      · exact ih ⟨n', hmem, hsome⟩

theorem value_trimZeros (c : Nat) (k : ℤ) : (trimZeros c k).value = Decimal.value ⟨c, k⟩ := by
  fun_induction trimZeros c k with
  | case1 c k h ih =>
    have hsplit : (c : ℚ) = (c / 10 : Nat) * 10 := by
      have := Nat.div_add_mod c 10
      exact_mod_cast (by omega : c = c / 10 * 10)
    rw [ih, Decimal.value, Decimal.value]
    simp only
    rw [zpow_add_one₀ (by norm_num), hsplit]
    ring
  | case2 => rfl

end Shortest

open Shortest (near_search onGrid_seventeen value_trimZeros unit_eq)
open Binary64

variable {m c : Nat} {e k : ℤ} {negative : Bool}

/-- The shortest decimal is near to its number. -/
theorem near_shortestDecimal (hm : m ≠ 0) (hp : IsProper (finite negative m e)) :
    Near m e (shortestDecimal m e).value := by
  rw [shortestDecimal, if_neg hm, value_trimZeros]
  exact near_search hm _ ⟨17, by decide, onGrid_seventeen hm hp⟩

/-- The digits of a number tell its power of ten. -/
theorem ten_pow_bounds (hc : c ≠ 0) :
    (10 : ℚ) ^ (((Nat.toDigits 10 c).length : ℤ) - 1) ≤ c ∧
      (c : ℚ) < 10 ^ ((Nat.toDigits 10 c).length : ℤ) := by
  have hpos : 0 < (Nat.toDigits 10 c).length := Nat.length_toDigits_pos
  have hupper : c < 10 ^ (Nat.toDigits 10 c).length :=
    (Nat.length_toDigits_le_iff (by decide) hpos).1 le_rfl
  obtain ⟨n, hn⟩ := Nat.exists_eq_add_one_of_ne_zero hpos.ne'
  rw [hn] at hupper ⊢
  have hexp : ((n + 1 : Nat) : ℤ) - 1 = n := by omega
  rw [hexp, zpow_natCast, zpow_natCast]
  refine ⟨?_, by exact_mod_cast hupper⟩
  obtain rfl | hn0 := Nat.eq_zero_or_pos n
  · exact_mod_cast Nat.one_le_iff_ne_zero.2 hc
  · have hlower : ¬ c < 10 ^ n := by
      rw [← Nat.length_toDigits_le_iff (by decide) hn0]
      omega
    exact_mod_cast not_lt.1 hlower

/-- What is near to a number lies far within the powers of ten that are written out. -/
theorem Near.bounds {x : ℚ} (h : Near m e x) (hm : m ≠ 0) (hp : IsProper (finite negative m e)) :
    (10 : ℚ) ^ (-400 : ℤ) < x ∧ x < 10 ^ (400 : ℤ) := by
  obtain ⟨hlt, hleast, hgreat, -⟩ := hp
  have htwo : (0 : ℚ) < 2 ^ e := zpow_pos two_pos e
  have hm1 : (1 : ℚ) ≤ m := by exact_mod_cast Nat.one_le_iff_ne_zero.2 hm
  have hm2 : (m : ℚ) + 1 ≤ 2 ^ 53 := by
    rw [← twoTo_cast]
    exact_mod_cast hlt
  have hgap := gapBelow_le m e
  constructor
  · have hsmall : (10 : ℚ) ^ (-400 : ℤ) ≤ 2 ^ (e - 2) :=
      ten_zpow_le_two_zpow (by simp only [leastExponent] at hleast; omega)
        (by simp only [leastExponent] at hleast; omega)
    rw [unit_eq e] at htwo hgap
    have hlow := h.low
    rw [unit_eq e] at hlow
    nlinarith
  · have hbig : (2 : ℚ) ^ e ≤ 2 ^ (971 : ℤ) := zpow_le_zpow_right₀ (by norm_num) hgreat
    have hlimit : (2 : ℚ) ^ 53 * 2 ^ (971 : ℤ) < 10 ^ (400 : ℤ) :=
      calc (2 : ℚ) ^ 53 * 2 ^ (971 : ℤ) = 2 ^ (1024 : ℤ) := pow_mul_zpow 53 971
        _ ≤ 2 ^ (3 * 400 : ℤ) := zpow_le_zpow_right₀ (by norm_num) (by norm_num)
        _ = (2 ^ 3) ^ 400 := by rw [zpow_mul, zpow_ofNat, zpow_ofNat]
        _ < 10 ^ 400 := pow_lt_pow_left₀ (by norm_num) (by norm_num) (by norm_num)
        _ = 10 ^ (400 : ℤ) := (zpow_ofNat 10 400).symm
    calc x ≤ m * 2 ^ e + 2 ^ e / 2 := h.high
      _ ≤ 2 ^ 53 * 2 ^ e := by nlinarith
      _ ≤ 2 ^ 53 * 2 ^ (971 : ℤ) := by gcongr
      _ < 10 ^ (400 : ℤ) := hlimit

/-- **What is near to a number is read as it**, whatever digits it is written with. -/
theorem ofDecimal_of_near (hm : m ≠ 0) (hp : IsProper (finite negative m e))
    (h : Near m e (Decimal.value ⟨c, k⟩)) : ofDecimal negative c k = finite negative m e := by
  have hten : ∀ i : ℤ, (0 : ℚ) < 10 ^ i := fun i => zpow_pos (by norm_num) i
  have hc : c ≠ 0 := by
    rintro rfl
    simpa [Decimal.value] using h.pos hm
  obtain ⟨hlow, hhigh⟩ := Near.bounds h hm hp
  obtain ⟨hdigits, hdigits'⟩ := ten_pow_bounds hc
  simp only [Decimal.value] at hlow hhigh
  have hle : ((Nat.toDigits 10 c).length : ℤ) + k ≤ 400 := by
    by_contra hgt
    have hstep : (10 : ℚ) ^ (400 : ℤ) ≤ 10 ^ (((Nat.toDigits 10 c).length : ℤ) - 1 + k) :=
      zpow_le_zpow_right₀ (by norm_num) (by omega)
    rw [zpow_add₀ (by norm_num)] at hstep
    nlinarith [hten k]
  have hge : -400 ≤ ((Nat.toDigits 10 c).length : ℤ) + k := by
    by_contra hlt
    have hstep : (10 : ℚ) ^ (((Nat.toDigits 10 c).length : ℤ) + k) ≤ 10 ^ (-400 : ℤ) :=
      zpow_le_zpow_right₀ (by norm_num) (by omega)
    rw [zpow_add₀ (by norm_num)] at hstep
    nlinarith [hten k]
  simp only [ofDecimal, if_neg hc, if_neg (not_lt.2 hle), if_neg (not_lt.2 hge)]
  have hvalue : ((c * tenTo k.toNat : Nat) : ℚ) / (tenTo (-k).toNat : Nat) =
      Decimal.value ⟨c, k⟩ := by
    rw [Decimal.value, div_eq_iff (by exact_mod_cast (tenTo_pos _).ne')]
    push_cast [tenTo_toNat k]
    ring
  exact ofQuotient_of_near (tenTo_pos _).ne' hm hp (hvalue ▸ h)

/-- **The shortest decimal is read as the number it stands for**, also where its digits are moved
against the power of ten. -/
theorem ofDecimal_shortestDecimal (hm : m ≠ 0) (hp : IsProper (finite negative m e))
    (h : Decimal.value ⟨c, k⟩ = (shortestDecimal m e).value) :
    ofDecimal negative c k = finite negative m e :=
  ofDecimal_of_near hm hp (h ▸ near_shortestDecimal hm hp)

end MovePlan.Numeric
