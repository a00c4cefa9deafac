import MovePlan.Proofs.Numeric.Order
import MovePlan.Proofs.Text.Numeral

/-!
# Texts that spell no number

A decimal numeral with digits is a number of the format or rounded to infinity, so what is read as
NaN is its name alone, with an optional sign before it and blanks around (`readBinary64?_eq_nan_iff`).
-/

namespace MovePlan.Text

open Numeric

variable {s t body : List Char} {negative after : Bool}

/-- The name of what is no number, in any letter case. -/
def IsNaNName (s : List Char) : Prop := s.map Char.toLower = ['n', 'a', 'n']

/-- Whether a text spells what is no number: its name after an optional sign, perhaps with blanks
around. -/
def SpellsNaN (s : List Char) : Prop :=
  ∃ sign name, Padded isNumeralBlank (sign ++ name) s ∧
    (sign = ['-'] ∨ sign = ['+'] ∨ sign = []) ∧ IsNaNName name

/-- Without digits nothing is joined. -/
theorem eq_of_joinDigits? (h : joinDigits? false s = some t) (ht : ∀ c ∈ t, isDigit c = false) :
    s = t := by
  induction s generalizing t with
  | nil =>
    cases h
    rfl
  | cons c rest ih =>
    by_cases hc : c = '_'
    · -- an underscore stands between two digits only
      subst hc
      cases rest with
      | nil => cases h
      | cons d tail => simp [joinDigits?] at h
    · rw [joinDigits?] at h
      · obtain ⟨rest', hrest, rfl⟩ := Option.map_eq_some_iff.1 h
        obtain ⟨hdigit, hdigits⟩ := List.forall_mem_cons.1 ht
        rw [hdigit] at hrest
        rw [ih hrest hdigits]
      · exact hc

/-- Without underscores nothing is joined either. -/
theorem joinDigits?_of_not_mem (h : '_' ∉ s) (after : Bool) : joinDigits? after s = some s := by
  induction s generalizing after with
  | nil => rfl
  | cons c rest ih =>
    obtain ⟨hc, hrest⟩ := not_or.1 (List.mem_cons.not.1 h)
    rw [joinDigits?, ih hrest]
    · rfl
    · exact Ne.symm hc

theorem readDecimal?_ne_nan : readDecimal? negative s ≠ some .nan := by
  intro h
  simp only [readDecimal?, Option.bind_eq_bind, Option.bind_eq_some_iff] at h
  obtain ⟨exponent, -, h⟩ := h
  generalize s.takeWhile isDigit = whole at h
  -- with a point or without, digits are rounded
  split at h
  all_goals
    split at h
    · cases h
    · exact Binary64.ofDecimal_ne_nan _ _ _ (Option.some.inj h)

theorem namedNumber?_eq_nan_iff : namedNumber? negative s = some .nan ↔ IsNaNName s := by
  rw [namedNumber?, IsNaNName]
  generalize s.map Char.toLower = name
  split
  · next h =>
    obtain rfl | rfl := h <;> simp
  · split
    · next h => simp [h]
    · next h => simp [h]

/-- What the letters of the name are: none is blank, a digit, a sign or an underscore. -/
theorem IsNaNName.plain (h : IsNaNName s) {c : Char} (hc : c ∈ s) :
    isBlank c = false ∧ isDigit c = false ∧ c ≠ '-' ∧ c ≠ '+' ∧ c ≠ '_' := by
  have hname : c.toLower ∈ ['n', 'a', 'n'] := h ▸ List.mem_map_of_mem hc
  have hlower : c.toLower.isLower = true := by
    simp only [List.mem_cons, List.not_mem_nil, or_false] at hname
    obtain h | h | h := hname <;> rw [h] <;> rfl
  exact forall_ascii (P := fun c => c.toLower.isLower = true →
    isBlank c = false ∧ isDigit c = false ∧ c ≠ '-' ∧ c ≠ '+' ∧ c ≠ '_') (by decide +kernel)
    (toNat_of_isLower_toLower hlower) hlower

/-- **What is read as no number is its name**, with a sign or without. -/
theorem readBinary64?_eq_nan_iff : readBinary64? s = some .nan ↔ SpellsNaN s := by
  constructor
  · intro h
    rcases hsign : takeSign (trimBy isNumeralBlank s) with ⟨negative, text⟩
    obtain ⟨sign, htrim, hsigns⟩ := exists_eq_of_takeSign hsign
    simp only [readBinary64?, hsign, Option.bind_eq_bind, Option.bind_eq_some_iff] at h
    obtain ⟨body, hjoin, h⟩ := h
    have hname : IsNaNName body := by
      cases hn : namedNumber? negative body with
      | none =>
        rw [hn] at h
        exact absurd h readDecimal?_ne_nan
      | some x =>
        rw [hn] at h
        obtain rfl : x = .nan := Option.some.inj h
        exact namedNumber?_eq_nan_iff.1 hn
    obtain rfl := eq_of_joinDigits? hjoin fun c hc => (hname.plain hc).2.1
    refine ⟨sign, text, htrim ▸ padded_trimBy isNumeralBlank s, ?_, hname⟩
    cases negative with
    | true => exact .inl hsigns
    | false => exact .inr hsigns
  · rintro ⟨sign, name, hpad, hsign, hname⟩
    have hblank : ∀ c ∈ sign ++ name, isBlank c = false :=
      List.forall_mem_append.2 ⟨isBlank_of_mem_sign hsign, fun c hc => (hname.plain hc).1⟩
    have htrim := hpad.trimBy_eq fun c hc => isNumeralBlank_eq_false (hblank c hc)
    have htake := takeSign_append hsign fun c hc =>
      ⟨(hname.plain (List.mem_of_mem_head? hc)).2.2.1, (hname.plain (List.mem_of_mem_head? hc)).2.2.2.1⟩
    have hjoin : joinDigits? false name = some name :=
      joinDigits?_of_not_mem (fun hm => (hname.plain hm).2.2.2.2 rfl) false
    simp only [readBinary64?, htrim, htake, hjoin, Option.bind_eq_bind,
      Option.bind_some, namedNumber?_eq_nan_iff.2 hname]
    rfl

end MovePlan.Text
