import MovePlan.Json.Coerce
import MovePlan.Proofs.Text.NoNumber

/-!
# Numbers between bounds

Comparing numbers, integers or not, compares their places among the rational numbers and the two
infinities (`numberLt_iff`). So what is taken from a loose value has the place of its number put
between those of the bounds, or is the default (`bounded_numberWithin`). Two kinds of values pass by
the bounds: what is or spells NaN, which is neither below nor above anything, and an integer beyond
the format, which has no number to compare.
-/

namespace MovePlan.Json

open Numeric Binary64 Text

variable {default low high j a b : Json} {x y lo hi : Line}

/-! ## Places of numbers -/

/-- The place of a number among the rational numbers and the two infinities. NaN has none, and
neither has a value that is no number. -/
def place? : Json → Option Line
  | int n => some (.of n)
  | float x => x.place?
  | _ => none

/-- One number is less than another exactly if its place is. -/
theorem numberLt_iff :
    numberLt a b = true ↔ ∃ x y, a.place? = some x ∧ b.place? = some y ∧ x < y := by
  cases a with
  | int m =>
    cases b with
    | int n => simp [numberLt, place?, Line.of_lt_of]
    | float z => simp [numberLt, place?, gtInt_iff]
    | _ => simp [numberLt, place?]
  | float z =>
    cases b with
    | int n => simp [numberLt, place?, ltInt_iff]
    | float w => simp [numberLt, place?, Binary64.lt_iff]
    | _ => simp [numberLt, place?]
  | _ => simp [numberLt, place?]

theorem numberLt_iff_of_place? (ha : a.place? = some x) (hb : b.place? = some y) :
    numberLt a b = true ↔ x < y := by
  simp [numberLt_iff, ha, hb]

/-- NaN is not less than anything, and nothing is less than it. -/
theorem numberLt_of_place?_eq_none (h : a.place? = none) (b : Json) :
    numberLt a b = false ∧ numberLt b a = false := by
  rw [← Bool.not_eq_true, ← Bool.not_eq_true, numberLt_iff, numberLt_iff]
  simp [h]

theorem place?_lesser (ha : a.place? = some x) (hb : b.place? = some y) :
    (lesser a b).place? = some (min x y) := by
  rw [lesser]
  split
  · next h => rw [hb, min_eq_right ((numberLt_iff_of_place? hb ha).1 h).le]
  · next h => rw [ha, min_eq_left (not_lt.1 ((numberLt_iff_of_place? hb ha).not.1 h))]

theorem place?_greater (ha : a.place? = some x) (hb : b.place? = some y) :
    (greater a b).place? = some (max x y) := by
  rw [greater]
  split
  · next h => rw [hb, max_eq_right ((numberLt_iff_of_place? ha hb).1 h).le]
  · next h => rw [ha, max_eq_left (not_lt.1 ((numberLt_iff_of_place? ha hb).not.1 h))]

/-- Whether a number lies between two others. -/
def Within (low high j : Json) : Prop :=
  ∃ lo hi x, low.place? = some lo ∧ high.place? = some hi ∧ j.place? = some x ∧ lo ≤ x ∧ x ≤ hi

theorem within_iff (hlow : low.place? = some lo) (hhigh : high.place? = some hi) :
    Within low high j ↔ ∃ x, j.place? = some x ∧ lo ≤ x ∧ x ≤ hi := by
  simp [Within, hlow, hhigh]

/-! ## Values that pass by the bounds -/

/-- Whether a value is NaN or spells it. -/
def IsNaN : Json → Prop
  | float x => x = .nan
  | str s => SpellsNaN s.toList
  | _ => False

/-- Whether a value is an integer beyond the format. -/
def IsBeyond : Json → Prop
  | int n => 2 ^ 1024 - 2 ^ 970 ≤ n.natAbs
  | _ => False

theorem toBinary64?_eq_nan_iff : toBinary64? j = .ok (some .nan) ↔ IsNaN j := by
  cases j with
  | int n =>
    simp only [toBinary64?, IsNaN, iff_false]
    split
    · next x hx =>
      rw [ofInt?_eq_some hx]
      simpa using ofInt_ne_nan n
    · exact nofun
  | bool v => simpa [toBinary64?, IsNaN] using ofInt_ne_nan _
  | float x => simp [toBinary64?, IsNaN]
  | str s => simp [toBinary64?, IsNaN, readBinary64?_eq_nan_iff]
  | _ => simp [toBinary64?, IsNaN]

/-- The number of a value is missing only if the value is an integer beyond the format. -/
theorem toBinary64?_eq_error_iff {e : Error} :
    toBinary64? j = .error e ↔ IsBeyond j ∧ e = .overflow := by
  cases j with
  | int n =>
    rw [toBinary64?, IsBeyond, ← ofInt?_eq_none_iff]
    cases ofInt? n <;> simp [eq_comm]
  | _ => simp [toBinary64?, IsBeyond]

/-! ## The number that is taken -/

/-- What is taken where a value has a number, or has none. -/
inductive Clamped (default low high : Json) : Option Binary64 → Json → Prop where
  /-- Without a number the default is taken. -/
  | missing : Clamped default low high none default
  /-- A number between the bounds is taken as it is. -/
  | kept {z : Binary64} (h : Within low high (float z)) : Clamped default low high (some z) (float z)
  /-- Any other is put at the bound that is nearer. -/
  | nearest {z : Binary64} {f : Json} {x lo hi : Line} (hx : z.place? = some x)
    (hlow : low.place? = some lo) (hhigh : high.place? = some hi) (hout : x < lo ∨ hi < x)
    (hf : f.place? = some (max lo (min hi x))) : Clamped default low high (some z) f

/-- The outcome of taking a number from a value, by what the value is. -/
inductive Bounded (default low high j : Json) : Except Error Json → Prop where
  | number {o : Option Binary64} {f : Json} (hnan : ¬ IsNaN j) (hbeyond : ¬ IsBeyond j)
    (ho : toBinary64? j = .ok o) (h : Clamped default low high o f) (hf : Within low high f) :
    Bounded default low high j (.ok f)
  | nan (hnan : IsNaN j) : Bounded default low high j (.ok (float .nan))
  | beyond (hbeyond : IsBeyond j) : Bounded default low high j (.error .overflow)

/-- What is taken of a number with a place lies between the bounds. -/
theorem exists_numberWithin_eq_ok (default : Json) {z : Binary64}
    (hz : toBinary64? j = .ok (some z))
    (hx : z.place? = some x) (hlow : low.place? = some lo) (hhigh : high.place? = some hi)
    (hle : lo ≤ hi) : ∃ f, numberWithin default low high j = .ok f ∧
      Clamped default low high (some z) f ∧ Within low high f := by
  have hplace : (float z).place? = some x := hx
  have hout : (numberLt (float z) low || numberLt high (float z)) = true ↔ x < lo ∨ hi < x := by
    rw [Bool.or_eq_true, numberLt_iff_of_place? hplace hlow, numberLt_iff_of_place? hhigh hplace]
  by_cases h : x < lo ∨ hi < x
  · have hf := place?_greater hlow (place?_lesser hhigh hplace)
    refine ⟨_, ?_, .nearest hx hlow hhigh h hf, (within_iff hlow hhigh).2
      ⟨_, hf, le_max_left _ _, max_le hle (min_le_left _ _)⟩⟩
    simp [numberWithin, hz, bind, Except.bind, pure, Except.pure, hout.2 h]
  · obtain ⟨hge, hle⟩ := not_or.1 h
    have hin : Within low high (float z) :=
      (within_iff hlow hhigh).2 ⟨x, hplace, not_lt.1 hge, not_lt.1 hle⟩
    refine ⟨float z, ?_, .kept hin, hin⟩
    simp [numberWithin, hz, bind, Except.bind, pure, Except.pure, Bool.eq_false_iff.2 (hout.not.2 h)]

/-- NaN passes by the bounds. -/
theorem numberWithin_of_nan (hz : toBinary64? j = .ok (some .nan)) :
    numberWithin default low high j = .ok (float .nan) := by
  have hnot : ∀ b, numberLt (float .nan) b = false ∧ numberLt b (float .nan) = false :=
    numberLt_of_place?_eq_none rfl
  simp [numberWithin, hz, bind, Except.bind, pure, Except.pure, hnot]

/-- An integer beyond the format ends the taking. -/
theorem numberWithin_of_beyond (hj : IsBeyond j) :
    numberWithin default low high j = .error .overflow := by
  have hz : toBinary64? j = .error .overflow := toBinary64?_eq_error_iff.2 ⟨hj, rfl⟩
  simp [numberWithin, hz, bind, Except.bind]

/-- **A number that is taken from a loose value lies between its bounds**, unless the value is NaN or
beyond the format. -/
theorem bounded_numberWithin (h : Within low high default) (j : Json) :
    Bounded default low high j (numberWithin default low high j) := by
  obtain ⟨lo, hi, d, hlow, hhigh, -, hlod, hdhi⟩ := id h
  cases hz : toBinary64? j with
  | error e =>
    have hbeyond := (toBinary64?_eq_error_iff.1 hz).1
    exact numberWithin_of_beyond hbeyond ▸ .beyond hbeyond
  | ok o =>
    have hbeyond : ¬ IsBeyond j := fun hb => by
      rw [toBinary64?_eq_error_iff.2 ⟨hb, rfl⟩] at hz
      cases hz
    have hnan : IsNaN j ↔ o = some .nan := by rw [← toBinary64?_eq_nan_iff, hz, Except.ok.injEq]
    cases o with
    | none =>
      have hdefault : numberWithin default low high j = .ok default := by
        simp [numberWithin, hz, bind, Except.bind, pure, Except.pure]
      exact hdefault ▸ .number (by simp [hnan]) hbeyond hz .missing h
    | some z =>
      cases hx : z.place? with
      | none =>
        obtain rfl : z = .nan := by cases z <;> simp_all [Binary64.place?]
        exact numberWithin_of_nan hz ▸ .nan (hnan.2 rfl)
      | some x =>
        obtain ⟨f, hf, hclamped, hin⟩ :=
          exists_numberWithin_eq_ok default hz hx hlow hhigh (hlod.trans hdhi)
        have hnot : ¬ IsNaN j := fun hn => by
          obtain rfl := Option.some.inj (hnan.1 hn)
          cases hx
        exact hf ▸ .number hnot hbeyond hz hclamped hin

end MovePlan.Json
