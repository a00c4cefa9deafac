import MovePlan.Text.Blank
import MovePlan.Text.Case
import MovePlan.Proofs.Text.Ascii

/-!
# Small letters of texts

In ASCII the small letters of a text are those of its characters one by one. Beyond ASCII only two
characters have a small letter of ASCII, an `i` and a `k`; so a text whose small letters are ASCII's
and neither of the two has its letters of ASCII in the same places (`filter_isLower_lower`).
-/

namespace MovePlan.Text

/-- The small letters of the runs lie beyond ASCII, but for that of the Kelvin sign. -/
theorem caseRuns_beyond_ascii : ∀ r ∈ caseRuns, 0x7A < r.first + r.offset ∨
    (r.first = 0x212A ∧ r.last = 0x212A ∧ r.offset = -8383) := by
  decide +kernel

theorem lowerChar_of_ascii {c : Char} (hc : c.toNat < 0x80) : lowerChar c = c.toLower := by
  rw [lowerChar, if_pos hc]

theorem toNat_ofNat {n : Nat} (h : n.isValidChar) : (Char.ofNat n).toNat = n := by
  have haux : Char.ofNat n = Char.ofNatAux n h := dif_pos h
  rw [haux]
  rfl

/-- Beyond ASCII, one character alone has a small letter of ASCII, and that is a `k`. -/
theorem lowerChar_beyond_ascii {c : Char} (hc : 0x80 ≤ c.toNat)
    (h : (lowerChar c).isLower = true) : lowerChar c = 'k' := by
  have hlow := toNat_of_isLower h
  unfold lowerChar at h hlow ⊢
  rw [if_neg (by omega)] at h hlow ⊢
  split
  · next r hr =>
    simp only [hr] at hlow
    have hholds := List.find?_some hr
    simp only [CaseRun.holds, Bool.and_eq_true, decide_eq_true_eq] at hholds
    rcases caseRuns_beyond_ascii r (List.mem_of_find?_eq_some hr) with hbeyond | ⟨hf, hl, ho⟩
    · by_cases hvalid : ((c.toNat : Int) + r.offset).toNat.isValidChar
      · -- the small letter is the code point itself
        have hn := toNat_ofNat hvalid
        omega
      · have hzero := congrArg Char.toNat (dif_neg hvalid : Char.ofNat _ = _)
        exact absurd (hzero ▸ hlow.1) (by decide)
    · obtain hn : c.toNat = 0x212A := by omega
      rw [hn, ho]
      rfl
  · next hr =>
    simp only [hr] at hlow
    omega

/-- The small letters of a character in its place: in ASCII its own, and beyond it none of ASCII but
an `i` or a `k`. -/
theorem exists_lowerAfter_cons (before : List Char) (c : Char) (rest : List Char) :
    ∃ small, lowerAfter before (c :: rest) = small ++ lowerAfter (c :: before) rest ∧
      (c.toNat < 0x80 → small = [c.toLower]) ∧
      (0x80 ≤ c.toNat → ∀ d ∈ small, d.isLower = true → d = 'i' ∨ d = 'k') := by
  refine ⟨_, rfl, ?_, ?_⟩
  · intro hc
    have hsigma : c ≠ 'Σ' := fun he => by rw [he] at hc; exact absurd hc (by decide)
    have hdotted : c ≠ 'İ' := fun he => by rw [he] at hc; exact absurd hc (by decide)
    simp [hsigma, hdotted, lowerChar_of_ascii hc]
  · intro hc d hd hlow
    split at hd
    · split at hd
      · rw [List.mem_singleton.mp hd] at hlow
        exact absurd hlow (by decide)
      · rw [List.mem_singleton.mp hd] at hlow
        exact absurd hlow (by decide)
    · split at hd
      · rcases List.mem_cons.mp hd with rfl | hd
        · exact Or.inl rfl
        · rw [List.mem_singleton.mp hd] at hlow
          exact absurd hlow (by decide)
      · rw [List.mem_singleton.mp hd] at hlow ⊢
        exact Or.inr (lowerChar_beyond_ascii hc hlow)

/-- Whether the small letter of a character is one character and the same wherever it stands. -/
def IsPlain (c : Char) : Prop := c ≠ 'Σ' ∧ c ≠ 'İ'

theorem isPlain_of_ascii {c : Char} (hc : c.toNat < 0x80) : IsPlain c := by
  constructor
  · rintro rfl
    exact absurd hc (by decide)
  · rintro rfl
    exact absurd hc (by decide)

/-- The small letters of plain characters stand in their places. -/
theorem lower_eq_map {s : List Char} (h : ∀ c ∈ s, IsPlain c) : lower s = s.map lowerChar := by
  have hafter : ∀ before, lowerAfter before s = s.map lowerChar := by
    induction s with
    | nil => exact fun _ => rfl
    | cons c rest ih =>
      obtain ⟨⟨hsigma, hdotted⟩, hrest⟩ := List.forall_mem_cons.1 h
      intro before
      simp [lowerAfter, hsigma, hdotted, ih hrest]
  exact hafter []

/-- No blank character is a capital letter. -/
theorem lowerChar_of_isBlank {c : Char} (h : isBlank c = true) : IsPlain c ∧ lowerChar c = c := by
  have hapart : ∀ b ∈ blankRanges, ∀ r ∈ caseRuns, b.2 < r.first ∨ r.last < b.1 := by decide +kernel
  obtain ⟨b, hb, hfirst, hlast⟩ : ∃ b ∈ blankRanges, b.1 ≤ c.toNat ∧ c.toNat ≤ b.2 := by
    simpa [isBlank, Ranges.holds] using h
  refine ⟨⟨?_, ?_⟩, ?_⟩
  · rintro rfl
    exact absurd h (by decide)
  · rintro rfl
    exact absurd h (by decide)
  · rcases Nat.lt_or_ge c.toNat 0x80 with hc | hc
    · rw [lowerChar_of_ascii hc]
      exact forall_ascii (P := fun c => isBlank c = true → c.toLower = c) (by decide) hc h
    · have hnone : caseRuns.find? (·.holds c.toNat) = none := by
        rw [List.find?_eq_none]
        intro r hr hholds
        simp only [CaseRun.holds, Bool.and_eq_true, decide_eq_true_eq] at hholds
        rcases hapart b hb r hr with hbelow | habove
        · omega
        · omega
      rw [lowerChar, if_neg (by omega), hnone]

/-- Blanks around a text of plain characters stay as they are. -/
theorem lower_of_blanks {before s after : List Char} (hblank : ∀ c ∈ before ++ after, isBlank c = true)
    (hs : ∀ c ∈ s, IsPlain c) : lower (before ++ s ++ after) = before ++ lower s ++ after := by
  obtain ⟨hbefore, hafter⟩ := List.forall_mem_append.1 hblank
  have hself : ∀ t : List Char, (∀ c ∈ t, isBlank c = true) → t.map lowerChar = t := fun t ht =>
    (List.map_congr_left fun c hc => (lowerChar_of_isBlank (ht c hc)).2).trans (List.map_id t)
  have hplain : ∀ c ∈ before ++ s ++ after, IsPlain c := by
    refine List.forall_mem_append.2 ⟨List.forall_mem_append.2 ⟨fun c hc => ?_, hs⟩, fun c hc => ?_⟩
    · exact (lowerChar_of_isBlank (hbefore c hc)).1
    · exact (lowerChar_of_isBlank (hafter c hc)).1
  rw [lower_eq_map hplain, lower_eq_map hs, List.map_append, List.map_append, hself before hbefore,
    hself after hafter]

/-- Where all small letters are of ASCII and none is an `i`, all characters are plain. -/
theorem isPlain_of_lower {s : List Char} (h : ∀ d ∈ lower s, d.toNat < 0x80 ∧ d ≠ 'i') :
    ∀ c ∈ s, IsPlain c := by
  have hafter : ∀ before, (∀ d ∈ lowerAfter before s, d.toNat < 0x80 ∧ d ≠ 'i') → ∀ c ∈ s, IsPlain c := by
    clear h
    induction s with
    | nil => exact fun _ _ => List.forall_mem_nil _
    | cons c rest ih =>
      intro before h
      rw [lowerAfter, List.forall_mem_append] at h
      refine List.forall_mem_cons.2 ⟨⟨?_, ?_⟩, ih _ h.2⟩
      · rintro rfl
        have hsigma := h.1 _ List.mem_cons_self
        split at hsigma
        · exact absurd hsigma.1 (by decide)
        · exact absurd hsigma.1 (by decide)
      · rintro rfl
        exact (h.1 'i' List.mem_cons_self).2 rfl
  exact hafter [] h

/-- In ASCII the small letters are those of the characters. -/
theorem lower_of_ascii {s : List Char} (h : ∀ c ∈ s, c.toNat < 0x80) :
    lower s = s.map Char.toLower := by
  rw [lower_eq_map fun c hc => isPlain_of_ascii (h c hc)]
  exact List.map_congr_left fun c hc => lowerChar_of_ascii (h c hc)

/-- The letters of ASCII in a text, in lower case. -/
def asciiLetters (s : List Char) : List Char := (s.filter Char.isAlpha).map Char.toLower

/-- Where neither an `i` nor a `k` is among the small letters of ASCII, they are those of the text's
letters of ASCII. -/
theorem filter_isLower_lower {s : List Char}
    (h : ∀ d ∈ (lower s).filter Char.isLower, d ≠ 'i' ∧ d ≠ 'k') :
    (lower s).filter Char.isLower = asciiLetters s := by
  have hafter : ∀ before, (∀ d ∈ (lowerAfter before s).filter Char.isLower, d ≠ 'i' ∧ d ≠ 'k') →
      (lowerAfter before s).filter Char.isLower = asciiLetters s := by
    clear h
    induction s with
    | nil => exact fun _ _ => rfl
    | cons c rest ih =>
      intro before h
      obtain ⟨small, heq, hascii, hbeyond⟩ := exists_lowerAfter_cons before c rest
      rw [heq, List.filter_append] at h ⊢
      rw [ih _ fun d hd => h d (List.mem_append_right _ hd)]
      rcases Nat.lt_or_ge c.toNat 0x80 with hc | hc
      · rw [hascii hc]
        by_cases ha : c.isAlpha = true
        · simp [asciiLetters, isLower_toLower hc, ha]
        · simp [asciiLetters, isLower_toLower hc, ha]
      · have hsmall : small.filter Char.isLower = [] := by
          rw [List.filter_eq_nil_iff]
          intro d hd hlow
          have hd' := h d (List.mem_append_left _ (List.mem_filter.mpr ⟨hd, hlow⟩))
          exact (hbeyond hc d hd hlow).elim hd'.1 hd'.2
        have ha : ¬ c.isAlpha = true := fun ha => by
          have := toNat_of_isAlpha ha
          omega
        rw [hsmall]
        simp [asciiLetters, ha]
  exact hafter [] h

end MovePlan.Text
