import MovePlan.Proofs.Text.Ascii
import MovePlan.Proofs.Text.Numeral
import MovePlan.Text.Word

/-!
# Words and digits

Digits of every script and of base sixteen belong to words (`isWord_of_isDigit`, `isWord_of_isHexDigit`). A
number is the value of its digits in base sixteen (`valueOf_toDigits`), in either letter case and with zeros
in front.
-/

namespace MovePlan.Text

variable {c : Char}

/-! ## Characters of words -/

theorem isWord_of_isAlphanum (h : c.isAlphanum = true) : isWord c = true := by
  rw [isWord, isAlphanumeric_of_ascii (toNat_of_isAlphanum h), h, Bool.true_or]

theorem isWord_of_isHexDigit (h : isHexDigit c = true) : isWord c = true :=
  isWord_of_isAlphanum (isAlphanum_of_isHexDigit h)

/-- Rows of ten digits lie in ranges if none is left after each range has taken away the first rows that lie
in it. -/
theorem exists_mem_of_foldl_dropWhile {rs : Ranges} {zeros : List Nat}
    (h : rs.foldl (fun zs r => zs.dropWhile fun z => r.1 ≤ z && z + 9 ≤ r.2) zeros = []) :
    ∀ z ∈ zeros, ∃ r ∈ rs, r.1 ≤ z ∧ z + 9 ≤ r.2 := by
  induction rs generalizing zeros with
  | nil =>
    rw [List.foldl_nil] at h
    simp [h]
  | cons r rs ih =>
    intro z hz
    rw [← List.takeWhile_append_dropWhile (p := fun z => r.1 ≤ z && z + 9 ≤ r.2) (l := zeros),
      List.mem_append] at hz
    rcases hz with hz | hz
    · have hin := List.mem_takeWhile_imp hz
      exact ⟨r, List.mem_cons_self, by simpa using hin⟩
    · obtain ⟨r', hr', hin⟩ := ih h z hz
      exact ⟨r', List.mem_cons_of_mem r hr', hin⟩

/-- Digits of every script belong to words. -/
theorem isWord_of_isDigit (h : isDigit c = true) : isWord c = true := by
  have hrows : ∀ z ∈ digitZeros, ∃ r ∈ (0x30, 0x39) :: alphanumericRanges, r.1 ≤ z ∧ z + 9 ≤ r.2 :=
    exists_mem_of_foldl_dropWhile (by decide +kernel)
  have hbeyond : ∀ r ∈ alphanumericRanges, 0x80 ≤ r.1 := by decide +kernel
  obtain ⟨z, hz, hlow, hhigh⟩ : ∃ z ∈ digitZeros, z ≤ c.toNat ∧ c.toNat ≤ z + 9 := by
    simpa [isDigit, digitValue?] using h
  obtain ⟨r, hr, hfirst, hlast⟩ := hrows z hz
  rcases List.mem_cons.1 hr with rfl | hr
  · have hdigit : c.isDigit = true := isDigit_iff.2 ⟨hfirst.trans hlow, hhigh.trans hlast⟩
    exact isWord_of_isAlphanum (by simp [Char.isAlphanum, hdigit])
  · have hin : alphanumericRanges.holds c.toNat = true := by
      rw [Ranges.holds, List.any_eq_true]
      exact ⟨r, hr, by simp; omega⟩
    have hfar : ¬c.toNat < 0x80 := by
      have := hbeyond r hr
      omega
    rw [isWord, isAlphanumeric, if_neg hfar, hin, Bool.true_or]

/-! ## Numbers in base sixteen -/

/-- The digits of a number in base sixteen, each with its value. -/
theorem exists_of_mem_toDigits {n : Nat} (h : c ∈ Nat.toDigits 16 n) :
    ∃ d < 16, c = Nat.digitChar d := by
  induction n using Nat.strongRecOn with
  | ind n ih =>
    rcases Nat.lt_or_ge n 16 with hn | hn
    · rw [Nat.toDigits_of_lt_base hn, List.mem_singleton] at h
      exact ⟨n, hn, h⟩
    · rw [Nat.toDigits_of_base_le (by decide) hn, List.mem_append, List.mem_singleton] at h
      rcases h with h | h
      · exact ih (n / 16) (by omega) h
      · exact ⟨n % 16, Nat.mod_lt n (by decide), h⟩

theorem hexValue?_digitChar {d : Nat} (h : d < 16) : hexValue? (Nat.digitChar d) = some d := by
  have hall : ∀ d < 16, hexValue? (Nat.digitChar d) = some d := by decide
  exact hall d h

theorem valueOf_append (base : Nat) (digit : Char → Option Nat) (s : List Char) (c : Char) :
    valueOf base digit (s ++ [c]) = base * valueOf base digit s + (digit c).getD 0 := by
  simp [valueOf]

theorem valueOf_toDigits (n : Nat) : valueOf 16 hexValue? (Nat.toDigits 16 n) = n := by
  induction n using Nat.strongRecOn with
  | ind n ih =>
    rcases Nat.lt_or_ge n 16 with hn | hn
    · rw [Nat.toDigits_of_lt_base hn]
      simp [valueOf, hexValue?_digitChar hn]
    · rw [Nat.toDigits_of_base_le (by decide) hn, valueOf_append, ih (n / 16) (by omega),
        hexValue?_digitChar (Nat.mod_lt n (by decide)), Option.getD_some]
      omega

/-- Zeros in front of digits do not count. -/
theorem valueOf_replicate_append {base : Nat} {digit : Char → Option Nat} (h : digit '0' = some 0)
    (zeros : Nat) (s : List Char) :
    valueOf base digit (List.replicate zeros '0' ++ s) = valueOf base digit s := by
  induction zeros with
  | zero => rfl
  | succ k ih =>
    rw [← ih, List.replicate_succ, List.cons_append, valueOf, valueOf, List.foldl_cons, h]
    simp

/-- A digit of base sixteen has the value that it has in lower case. -/
theorem hexValue?_toLower (c : Char) : hexValue? c.toLower = hexValue? c := by
  rcases Nat.lt_or_ge c.toNat 0x80 with hc | hc
  · exact forall_ascii (P := fun c => hexValue? c.toLower = hexValue? c) (by decide) hc
  · rw [toLower_of_beyond_ascii hc]

end MovePlan.Text
