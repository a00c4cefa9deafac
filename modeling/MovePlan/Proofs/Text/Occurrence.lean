import Mathlib.Data.List.Forall2
import MovePlan.Text.Case

/-!
# Patterns in texts

A pattern of small letters is looked for in a text without regard to letter case. Where it is, is told by
the characters that it matches (`Occurs`), and it is found exactly if it is somewhere
(`holdsCaseless_iff`). A pattern does not reach over a character that none of its letters matches
(`Occurs.of_append_cons`), and it begins where its first letter is matched (`Occurs.of_append`).
-/

namespace MovePlan.Text

variable {pattern s t u v rest : List Char} {c p : Char}

/-- Whether a text is matched by a pattern letter by letter, without regard to case. -/
def Matches (pattern s : List Char) : Prop :=
  List.Forall₂ (fun p c => sameLetter p c = true) pattern s

/-- Whether a pattern occurs in a text, without regard to case. -/
def Occurs (pattern s : List Char) : Prop :=
  ∃ before t after, s = before ++ t ++ after ∧ Matches pattern t

/-! ## Where a pattern is found -/

/-- What follows a pattern at the start of a text follows the text that it matches. -/
theorem afterCaseless?_eq_some_iff :
    afterCaseless? pattern s = some rest ↔ ∃ t, Matches pattern t ∧ s = t ++ rest := by
  induction pattern generalizing s with
  | nil =>
    constructor
    · intro h
      exact ⟨[], .nil, Option.some.inj h⟩
    · rintro ⟨t, ⟨⟩, rfl⟩
      rfl
  | cons p ps ih =>
    cases s with
    | nil =>
      constructor
      · intro h
        cases h
      · rintro ⟨t, ⟨⟩, h⟩
        cases h
    | cons c cs =>
      rw [afterCaseless?]
      constructor
      · intro h
        split at h
        · next hsame =>
          obtain ⟨t, ht, rfl⟩ := ih.1 h
          exact ⟨c :: t, .cons hsame ht, rfl⟩
        · cases h
      · rintro ⟨t, ht, h⟩
        obtain ⟨d, tail, hsame, htail, rfl⟩ := List.forall₂_cons_left_iff.1 ht
        obtain ⟨rfl, rfl⟩ := List.cons.inj h
        rw [if_pos hsame]
        exact ih.2 ⟨tail, htail, rfl⟩

theorem occurs_nil_iff : Occurs pattern [] ↔ pattern = [] := by
  constructor
  · rintro ⟨before, t, after, h, ht⟩
    obtain rfl : t = [] := by simp_all
    cases ht
    rfl
  · rintro rfl
    exact ⟨[], [], [], rfl, .nil⟩

/-- A pattern occurs in a text at its start, or after the first character. -/
theorem occurs_cons_iff : Occurs pattern (c :: s) ↔
    (∃ rest, afterCaseless? pattern (c :: s) = some rest) ∨ Occurs pattern s := by
  constructor
  · rintro ⟨before, t, after, h, ht⟩
    cases before with
    | nil => exact Or.inl ⟨after, afterCaseless?_eq_some_iff.2 ⟨t, ht, h⟩⟩
    | cons d before =>
      obtain ⟨rfl, rfl⟩ := List.cons.inj h
      exact Or.inr ⟨before, t, after, rfl, ht⟩
  · rintro (⟨rest, h⟩ | ⟨before, t, after, rfl, ht⟩)
    · obtain ⟨t, ht, h⟩ := afterCaseless?_eq_some_iff.1 h
      exact ⟨[], t, rest, h, ht⟩
    · exact ⟨c :: before, t, after, rfl, ht⟩

/-- **A pattern is found in a text exactly if it occurs there.** -/
theorem holdsCaseless_iff : holdsCaseless pattern s = true ↔ Occurs pattern s := by
  induction s with
  | nil =>
    rw [occurs_nil_iff]
    cases pattern <;> simp [holdsCaseless, afterCaseless?]
  | cons c cs ih => rw [holdsCaseless, Bool.or_eq_true, ih, occurs_cons_iff, Option.isSome_iff_exists]

/-- Where a pattern does not occur, no part of the text begins with it. -/
theorem afterCaseless?_eq_none (h : ¬Occurs pattern s) (ht : t <:+ s) :
    afterCaseless? pattern t = none := by
  obtain ⟨before, rfl⟩ := ht
  rw [Option.eq_none_iff_forall_ne_some]
  intro rest hrest
  obtain ⟨m, hm, rfl⟩ := afterCaseless?_eq_some_iff.1 hrest
  exact h ⟨before, m, rest, by simp, hm⟩

/-! ## Where a pattern cannot be -/

/-- With a pattern its parts occur. -/
theorem Occurs.parts (h : Occurs (u ++ v) s) : Occurs u s ∧ Occurs v s := by
  obtain ⟨before, t, after, rfl, ht⟩ := h
  obtain ⟨x, y, rfl, hx, hy⟩ : ∃ x y, t = x ++ y ∧ Matches u x ∧ Matches v y := by
    have htake := List.forall₂_take u.length ht
    have hdrop := List.forall₂_drop u.length ht
    rw [List.take_left] at htake
    rw [List.drop_left] at hdrop
    exact ⟨_, _, (List.take_append_drop u.length t).symm, htake, hdrop⟩
  exact ⟨⟨before, x, y ++ after, by simp, hx⟩, ⟨before ++ x, y, after, by simp, hy⟩⟩

/-- A pattern occurs only where each of its letters is matched. -/
theorem Occurs.exists_mem (h : Occurs pattern s) (hp : p ∈ pattern) :
    ∃ c ∈ s, sameLetter p c = true := by
  obtain ⟨before, t, after, rfl, ht⟩ := h
  obtain ⟨i, hi, rfl⟩ := List.mem_iff_getElem.1 hp
  have hit : i < t.length := ht.length_eq ▸ hi
  refine ⟨t[i], ?_, List.Forall₂.get ht hi hit⟩
  exact List.mem_append_left after (List.mem_append_right before (List.getElem_mem hit))

/-- A pattern does not begin where its first letter is not matched. -/
theorem Occurs.of_append (h : Occurs (p :: pattern) (u ++ v)) (hu : ∀ c ∈ u, sameLetter p c = false) :
    Occurs (p :: pattern) v := by
  induction u with
  | nil => exact h
  | cons c u ih =>
    obtain ⟨hc, hu⟩ := List.forall_mem_cons.1 hu
    rcases occurs_cons_iff.1 h with ⟨rest, hrest⟩ | h
    · rw [List.append_eq, afterCaseless?, hc] at hrest
      cases hrest
    · exact ih h hu

/-- A pattern at the start of a text ends before a character that none of its letters matches. -/
theorem exists_afterCaseless?_of_append_cons (hc : ∀ p ∈ pattern, sameLetter p c = false)
    (h : afterCaseless? pattern (u ++ c :: v) = some rest) :
    ∃ r, afterCaseless? pattern u = some r := by
  induction pattern generalizing u with
  | nil => exact ⟨u, rfl⟩
  | cons p ps ih =>
    obtain ⟨hp, hps⟩ := List.forall_mem_cons.1 hc
    cases u with
    | nil =>
      rw [List.nil_append, afterCaseless?, hp] at h
      cases h
    | cons d u =>
      rw [List.cons_append, afterCaseless?] at h
      rw [afterCaseless?]
      split at h
      · next hsame =>
        rw [if_pos hsame]
        exact ih hps h
      · cases h

/-- **A pattern lies on one side of a character that none of its letters matches.** -/
theorem Occurs.of_append_cons (h : Occurs pattern (u ++ c :: v))
    (hc : ∀ p ∈ pattern, sameLetter p c = false) : Occurs pattern u ∨ Occurs pattern v := by
  induction u with
  | nil =>
    rcases occurs_cons_iff.1 h with ⟨rest, hrest⟩ | h
    · obtain ⟨r, hr⟩ := exists_afterCaseless?_of_append_cons (u := []) hc hrest
      obtain ⟨t, ht, hnil⟩ := afterCaseless?_eq_some_iff.1 hr
      exact Or.inl ⟨[], t, r, hnil, ht⟩
    · exact Or.inr h
  | cons d u ih =>
    rcases occurs_cons_iff.1 h with ⟨rest, hrest⟩ | h
    · exact Or.inl (occurs_cons_iff.2 (Or.inl (exists_afterCaseless?_of_append_cons (u := d :: u) hc hrest)))
    · exact (ih h).imp_left fun hu => occurs_cons_iff.2 (Or.inr hu)

end MovePlan.Text
