import MovePlan.Text.Blank
import MovePlan.Text.Digit

/-!
# Characters of ASCII

What kinds of characters lie in ASCII, and what holds of them there. ASCII is small enough for a property
to be checked for each of its characters (`forall_ascii`).
-/

namespace MovePlan.Text

variable {c : Char}

/-- A property of ASCII, which can be checked for each of its characters. -/
theorem forall_ascii {P : Char → Prop} (h : ∀ n < 0x80, P (Char.ofNat n))
    (hc : c.toNat < 0x80) : P c := by
  simpa using h c.toNat hc

/-! ## Ranges -/

/-- Large letters are those between the first and the last. -/
theorem isUpper_iff : c.isUpper = true ↔ 'A' ≤ c ∧ c ≤ 'Z' := decide_eq_true_iff

theorem isLower_iff : c.isLower = true ↔ 'a' ≤ c ∧ c ≤ 'z' :=
  Bool.and_eq_true_iff.trans (and_congr decide_eq_true_iff decide_eq_true_iff)

theorem isDigit_iff : c.isDigit = true ↔ '0' ≤ c ∧ c ≤ '9' :=
  Bool.and_eq_true_iff.trans (and_congr decide_eq_true_iff decide_eq_true_iff)

/-- A letter is a large or a small one. -/
theorem isAlpha_iff : c.isAlpha = true ↔ ('A' ≤ c ∧ c ≤ 'Z') ∨ ('a' ≤ c ∧ c ≤ 'z') :=
  Bool.or_eq_true_iff.trans (or_congr isUpper_iff isLower_iff)

/-! ## What lies in ASCII -/

theorem toNat_of_isUpper (h : c.isUpper = true) : 0x41 ≤ c.toNat ∧ c.toNat ≤ 0x5A := by
  obtain ⟨hlow, hhigh⟩ := of_decide_eq_true h
  exact ⟨UInt32.le_iff_toNat_le.mp hlow, UInt32.le_iff_toNat_le.mp hhigh⟩

theorem toNat_of_isLower (h : c.isLower = true) : 0x61 ≤ c.toNat ∧ c.toNat ≤ 0x7A := by
  obtain ⟨hlow, hhigh⟩ := Bool.and_eq_true_iff.mp h
  exact ⟨UInt32.le_iff_toNat_le.mp (of_decide_eq_true hlow),
    UInt32.le_iff_toNat_le.mp (of_decide_eq_true hhigh)⟩

/-- Where the digits are among the code points. -/
theorem toNat_of_isDigit (h : c.isDigit = true) : 0x30 ≤ c.toNat ∧ c.toNat ≤ 0x39 := by
  obtain ⟨hlow, hhigh⟩ := Bool.and_eq_true_iff.mp h
  exact ⟨UInt32.le_iff_toNat_le.mp (of_decide_eq_true hlow),
    UInt32.le_iff_toNat_le.mp (of_decide_eq_true hhigh)⟩

theorem toNat_of_isAlpha (h : c.isAlpha = true) : c.toNat < 0x80 := by
  rcases Bool.or_eq_true _ _ ▸ h with h | h
  · have := (toNat_of_isUpper h).2
    omega
  · have := (toNat_of_isLower h).2
    omega

/-- Letters and digits are characters of ASCII. -/
theorem toNat_of_isAlphanum (h : c.isAlphanum = true) : c.toNat < 0x80 := by
  rcases Bool.or_eq_true _ _ ▸ h with h | h
  · exact toNat_of_isAlpha h
  · have := (toNat_of_isDigit h).2
    omega

/-- Beyond ASCII a character is its own small letter. -/
theorem toLower_of_beyond_ascii (h : 0x80 ≤ c.toNat) : c.toLower = c := by
  unfold Char.toLower
  rw [dif_neg]
  intro hA
  have := UInt32.le_iff_toNat_le.mp hA.2
  have hZ : 'Z'.val.toNat = 0x5A := rfl
  have hn : c.val.toNat = c.toNat := rfl
  omega

/-- Only characters of ASCII have a small letter of ASCII. -/
theorem toNat_of_isLower_toLower (h : c.toLower.isLower = true) : c.toNat < 0x80 := by
  rcases Nat.lt_or_ge c.toNat 0x80 with hc | hc
  · exact hc
  · have := toNat_of_isLower (toLower_of_beyond_ascii hc ▸ h)
    omega

/-- A digit of base sixteen is a letter or a digit. -/
theorem isAlphanum_of_isHexDigit (h : isHexDigit c = true) : c.isAlphanum = true := by
  have hz : 'f'.val ≤ 'z'.val := by decide
  have hZ : 'F'.val ≤ 'Z'.val := by decide
  unfold isHexDigit hexValue? at h
  refine Bool.or_eq_true_iff.mpr ?_
  split at h
  · next hc => exact Or.inr (Bool.and_eq_true_iff.mpr ⟨decide_eq_true hc.1, decide_eq_true hc.2⟩)
  · refine Or.inl (Bool.or_eq_true_iff.mpr ?_)
    split at h
    · next hc =>
      have hhigh := UInt32.le_trans hc.2 hz
      exact Or.inr (Bool.and_eq_true_iff.mpr ⟨decide_eq_true hc.1, decide_eq_true hhigh⟩)
    · split at h
      · next hc => exact Or.inl (decide_eq_true ⟨hc.1, UInt32.le_trans hc.2 hZ⟩)
      · cases h

/-! ## What holds there -/

/-- In ASCII just the letters have a small letter. -/
theorem isLower_toLower (hc : c.toNat < 0x80) : c.toLower.isLower = c.isAlpha :=
  forall_ascii (P := fun c => c.toLower.isLower = c.isAlpha) (by decide) hc

theorem isBlank_of_eq_space (h : (c == ' ') = true) : isBlank c = true := by
  rw [beq_iff_eq.mp h]
  decide

/-- Letters and digits are no white space. -/
theorem isBlank_of_isAlphanum (h : c.isAlphanum = true) : isBlank c = false :=
  forall_ascii (P := fun c => c.isAlphanum = true → isBlank c = false) (by decide)
    (toNat_of_isAlphanum h) h

theorem isBlank_of_isDigit (h : c.isDigit = true) : isBlank c = false :=
  isBlank_of_isAlphanum (by simp [Char.isAlphanum, h])

/-- Nothing with a small letter is white space. -/
theorem isBlank_of_isLower_toLower (h : c.toLower.isLower = true) : isBlank c = false :=
  forall_ascii (P := fun c => c.toLower.isLower = true → isBlank c = false) (by decide)
    (toNat_of_isLower_toLower h) h

/-- No digit is the mark of the base. -/
theorem toLower_ne_of_isHexDigit (h : isHexDigit c = true) : c.toLower ≠ 'x' :=
  forall_ascii (P := fun c => isHexDigit c = true → c.toLower ≠ 'x') (by decide)
    (toNat_of_isAlphanum (isAlphanum_of_isHexDigit h)) h

/-- A digit is read as the number that it was written for. -/
theorem hexValue?_hexChar {n : Nat} (h : n < 16) : hexValue? (hexChar n) = some n := by
  have hall : ∀ n < 16, hexValue? (hexChar n) = some n := by decide
  exact hall n h

end MovePlan.Text
