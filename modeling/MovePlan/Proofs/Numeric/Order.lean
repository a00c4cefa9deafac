import Mathlib.Order.WithBot
import MovePlan.Proofs.Numeric.Rounding

/-!
# The order of numbers

Every number but NaN has a place among the rational numbers and the two infinities, and comparing two
numbers compares their places (`lt_iff`). What is rounded is never NaN, and an integer is rounded to
a finite number unless its magnitude comes within half a unit of `2 ^ 1024` (`ofInt?_eq_none_iff`).
-/

namespace MovePlan

namespace Numeric.Binary64

/-! ## Places -/

/-- The rational numbers between the two infinities. -/
abbrev Line := WithBot (WithTop ℚ)

/-- The rational number that a finite number is. -/
def rational (negative : Bool) (mantissa : Nat) (exponent : Int) : ℚ :=
  (if negative then -1 else 1) * (mantissa * 2 ^ exponent)

/-- The place of a rational number. -/
def Line.of (x : ℚ) : Line := ((x : WithTop ℚ) : Line)

/-- The place of a number. NaN has none. -/
def place? : Binary64 → Option Line
  | nan => none
  | infinity negative => some (if negative then ⊥ else ⊤)
  | finite negative m e => some (.of (rational negative m e))

variable {x y : Binary64} {n : Int}

theorem Line.of_lt_of {x y : ℚ} : Line.of x < Line.of y ↔ x < y := by
  rw [Line.of, Line.of, WithBot.coe_lt_coe, WithTop.coe_lt_coe]

theorem Line.bot_lt_of (x : ℚ) : ⊥ < Line.of x := WithBot.bot_lt_coe _

theorem Line.of_lt_top (x : ℚ) : Line.of x < ⊤ := WithBot.coe_lt_coe.2 (WithTop.coe_lt_top x)

theorem signedQuotient_snd_pos (s : Bool) (m : Nat) (e : Int) : 0 < (signedQuotient s m e).2 :=
  twoTo_pos _

theorem signedQuotient_div (s : Bool) (m : Nat) (e : Int) :
    ((signedQuotient s m e).1 : ℚ) / (signedQuotient s m e).2 = rational s m e := by
  rw [rational, zpow_eq_div_toNat two_ne_zero]
  cases s <;> simp [signedQuotient, quotient, twoTo_cast, mul_div_assoc, neg_div]

/-- Signed quotients are compared by multiplying out. -/
theorem cross_lt_iff {a c : Int} {b d : Nat} (hb : 0 < b) (hd : 0 < d) :
    a * d < c * b ↔ (a : ℚ) / b < c / d := by
  rw [div_lt_div_iff₀ (by exact_mod_cast hb) (by exact_mod_cast hd)]
  exact_mod_cast Iff.rfl

/-- One number is less than another exactly if its place is. -/
theorem lt_iff : lt x y = true ↔ ∃ a b, x.place? = some a ∧ y.place? = some b ∧ a < b := by
  cases x with
  | nan => simp [lt, place?]
  | infinity s =>
    cases y with
    | nan => simp [lt, place?]
    | infinity t => cases s <;> cases t <;> simp [lt, place?]
    | finite t n f => cases s <;> simp [lt, place?, Line.bot_lt_of]
  | finite s m e =>
    cases y with
    | nan => simp [lt, place?]
    | infinity t => cases t <;> simp [lt, place?, Line.of_lt_top]
    | finite t n f =>
      have hcross := cross_lt_iff (a := (signedQuotient s m e).1) (c := (signedQuotient t n f).1)
        (signedQuotient_snd_pos s m e) (signedQuotient_snd_pos t n f)
      rw [signedQuotient_div, signedQuotient_div] at hcross
      simp [lt, place?, hcross, Line.of_lt_of]

theorem ltInt_iff : ltInt x n = true ↔ ∃ a, x.place? = some a ∧ a < .of n := by
  cases x with
  | nan => simp [ltInt, place?]
  | infinity s => cases s <;> simp [ltInt, place?, Line.bot_lt_of]
  | finite s m e =>
    have hcross := cross_lt_iff (a := (signedQuotient s m e).1) (c := n)
      (signedQuotient_snd_pos s m e) Nat.one_pos
    rw [signedQuotient_div, Nat.cast_one, mul_one, Nat.cast_one, div_one] at hcross
    simp [ltInt, place?, hcross, Line.of_lt_of]

theorem gtInt_iff : gtInt x n = true ↔ ∃ a, x.place? = some a ∧ .of n < a := by
  cases x with
  | nan => simp [gtInt, place?]
  | infinity s => cases s <;> simp [gtInt, place?, Line.of_lt_top]
  | finite s m e =>
    have hcross := cross_lt_iff (a := n) (c := (signedQuotient s m e).1) Nat.one_pos
      (signedQuotient_snd_pos s m e)
    rw [signedQuotient_div, Nat.cast_one, mul_one, Nat.cast_one, div_one] at hcross
    simp [gtInt, place?, hcross, Line.of_lt_of]

/-! ## Numbers beyond the last one -/

/-- Half a unit above the last number: what lies there is rounded to infinity. -/
def limit : ℚ := (2 ^ 53 - 1 / 2) * 2 ^ greatestExponent

/-- At the greatest exponent the mantissa overflows exactly from the limit on. -/
theorem roundQuotient_eq_twoTo_iff {num den : Nat} (hden : 0 < den)
    (hhigh : (num / den : ℚ) < 2 ^ 53 * 2 ^ greatestExponent) :
    roundQuotient (inUnitsOfTwo num den greatestExponent).1 (inUnitsOfTwo num den greatestExponent).2 =
      twoTo 53 ↔ limit ≤ num / den := by
  have hunit : (0 : ℚ) < 2 ^ greatestExponent := zpow_pos two_pos _
  have hpos := inUnitsOfTwo_snd_pos hden num greatestExponent
  have hunits := inUnitsOfTwo_eq num den greatestExponent
  generalize inUnitsOfTwo num den greatestExponent = u at hpos hunits ⊢
  rw [limit, ← le_div_iff₀ hunit, ← hunits]
  constructor
  · intro hround
    have hlow := (isNearest_roundQuotient u.1 hpos).low
    rwa [hround, twoTo_cast] at hlow
  · intro hle
    have hless : (u.1 : ℚ) / u.2 < 2 ^ 53 := hunits ▸ (div_lt_iff₀ hunit).2 hhigh
    refine IsNearest.roundQuotient_eq ⟨?_, ?_, fun _ => by decide⟩ hpos
    · rwa [twoTo_cast]
    · rw [twoTo_cast]
      linarith

/-- Rounding leaves the exponents of the format exactly from the limit on. -/
theorem greatestExponent_lt_iff {num den : Nat} (hden : 0 < den) {e : Int}
    (h : IsExponent (num / den) e) :
    greatestExponent < (if roundQuotient (inUnitsOfTwo num den e).1 (inUnitsOfTwo num den e).2 =
      twoTo 53 then e + 1 else e) ↔ limit ≤ num / den := by
  obtain ⟨-, hhigh, hlow⟩ := h
  have hunit : (0 : ℚ) < 2 ^ greatestExponent := zpow_pos two_pos _
  obtain hlt | rfl | hgt := lt_trichotomy e greatestExponent
  · -- at a lesser exponent the quotient is less than half of the limit
    have hstep : (2 : ℚ) * 2 ^ e ≤ 2 ^ greatestExponent := by
      rw [← zpow_one_add₀ two_ne_zero]
      exact zpow_le_zpow_right₀ (by norm_num) (by omega)
    have hbelow : ¬ limit ≤ num / den := by
      rw [not_le, limit]
      linarith
    refine iff_of_false ?_ hbelow
    split <;> omega
  · rw [← roundQuotient_eq_twoTo_iff hden hhigh]
    split
    · next hround => exact iff_of_true (by omega) hround
    · next hround => exact iff_of_false (by omega) hround
  · -- at a greater exponent the quotient is beyond the limit
    have hstep : (2 : ℚ) * 2 ^ greatestExponent ≤ 2 ^ e := by
      rw [← zpow_one_add₀ two_ne_zero]
      exact zpow_le_zpow_right₀ (by norm_num) (by omega)
    have hleast : e ≠ leastExponent := by
      rintro rfl
      exact absurd hgt (by decide)
    have hfloor := hlow.resolve_left hleast
    have hbeyond : limit ≤ num / den := by
      rw [limit]
      linarith
    refine iff_of_true ?_ hbeyond
    split <;> omega

/-- A quotient is rounded to infinity exactly from the limit on. -/
theorem ofQuotient_eq_infinity_iff {negative : Bool} {num den : Nat} (hden : den ≠ 0) :
    ofQuotient negative num den = infinity negative ↔ limit ≤ num / den := by
  rw [ofQuotient]
  split
  · next hnum =>
    have hunit : (0 : ℚ) < 2 ^ greatestExponent := zpow_pos two_pos _
    rw [hnum, Nat.cast_zero, zero_div, limit]
    simp only [zero, reduceCtorEq, false_iff, not_le]
    linarith
  · next hnum =>
    have hexp := isExponent_exponentFor hnum hden
    rw [← greatestExponent_lt_iff (Nat.pos_of_ne_zero hden) hexp]
    simp only
    split <;> split <;> simp [*]

/-- What rounding gives: infinity or a finite number, with the sign of the quotient. -/
theorem ofQuotient_eq_infinity_or (negative : Bool) (num den : Nat) :
    ofQuotient negative num den = infinity negative ∨
      ∃ m e, ofQuotient negative num den = finite negative m e := by
  rw [ofQuotient]
  split
  · exact .inr ⟨_, _, rfl⟩
  · simp only
    split <;> split
    · exact .inl rfl
    · exact .inr ⟨_, _, rfl⟩
    · exact .inl rfl
    · exact .inr ⟨_, _, rfl⟩

theorem ofQuotient_ne_nan (negative : Bool) (num den : Nat) : ofQuotient negative num den ≠ nan := by
  obtain h | ⟨m, e, h⟩ := ofQuotient_eq_infinity_or negative num den
  · simp [h]
  · simp [h]

theorem ofDecimal_ne_nan (negative : Bool) (c : Nat) (k : Int) : ofDecimal negative c k ≠ nan := by
  rw [ofDecimal]
  split
  · simp [zero]
  · dsimp only
    split
    · simp
    · split
      · simp [zero]
      · exact ofQuotient_ne_nan _ _ _

theorem ofInt_ne_nan (n : Int) : ofInt n ≠ nan := ofQuotient_ne_nan _ _ _

/-- **An integer is beyond the format exactly if its magnitude reaches the limit**, which is half a
unit short of `2 ^ 1024`. -/
theorem ofInt?_eq_none_iff : ofInt? n = none ↔ 2 ^ 1024 - 2 ^ 970 ≤ n.natAbs := by
  have hlimit : limit = (2 ^ 1024 - 2 ^ 970 : Nat) := by
    have hunit : (2 : ℚ) ^ greatestExponent = 2 * 2 ^ 970 := by
      rw [← pow_succ', greatestExponent, ← zpow_natCast]
      norm_num
    have htop : (2 : ℚ) ^ 1024 = 2 ^ 54 * 2 ^ 970 := by rw [← pow_add]
    have hle : (2 : Nat) ^ 970 ≤ 2 ^ 1024 := pow_le_pow_right₀ one_le_two (by omega)
    rw [limit, Nat.cast_sub hle, Nat.cast_pow, Nat.cast_pow, Nat.cast_ofNat, hunit, htop]
    generalize (2 : ℚ) ^ 970 = u
    ring
  have hinfinite : ofInt n = infinity (n < 0) ↔ 2 ^ 1024 - 2 ^ 970 ≤ n.natAbs := by
    rw [ofInt, ofQuotient_eq_infinity_iff Nat.one_ne_zero, hlimit, Nat.cast_one, div_one]
    exact_mod_cast Iff.rfl
  rw [← hinfinite, ofInt?, ofInt]
  obtain h | ⟨m, e, h⟩ := ofQuotient_eq_infinity_or (n < 0) n.natAbs 1
  · simp [h]
  · simp [h]

theorem ofInt?_eq_some {x : Binary64} (h : ofInt? n = some x) : x = ofInt n := by
  rw [ofInt?] at h
  split at h
  · cases h
  · exact (Option.some.inj h).symm

end Numeric.Binary64

end MovePlan
