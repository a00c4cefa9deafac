import Mathlib.Data.List.TakeWhile
import MovePlan.Move.FunctionId
import MovePlan.Proofs.Text.Ascii
import MovePlan.Proofs.Text.Blank

/-!
# Forms of addresses and names

An address and an identifier are told by the characters that stand in them (`IsAddress`, `IsName`), without
regard to how they are read. The reading passes over one line feed after each (`isWellFormed_iff`,
`isIdentifier_iff`).
-/

namespace MovePlan.Move

open Text

/-! ## Characters and forms -/

/-- Whether a character is a digit of base sixteen. -/
def IsHex (c : Char) : Prop := ('0' ≤ c ∧ c ≤ '9') ∨ ('a' ≤ c ∧ c ≤ 'f') ∨ ('A' ≤ c ∧ c ≤ 'F')

/-- Whether a character is a letter of ASCII or an underscore. -/
def IsNameStart (c : Char) : Prop := ('A' ≤ c ∧ c ≤ 'Z') ∨ ('a' ≤ c ∧ c ≤ 'z') ∨ c = '_'

/-- Whether a character is a letter or digit of ASCII or an underscore. -/
def IsNameRest (c : Char) : Prop := IsNameStart c ∨ ('0' ≤ c ∧ c ≤ '9')

instance : DecidablePred IsHex := fun _ => inferInstanceAs (Decidable (_ ∨ _ ∨ _))

instance : DecidablePred IsNameStart := fun _ => inferInstanceAs (Decidable (_ ∨ _ ∨ _))

instance : DecidablePred IsNameRest := fun _ => inferInstanceAs (Decidable (_ ∨ _))

/-- An address is `0x` and 1 to 64 digits. -/
inductive IsAddress : List Char → Prop where
  | digits {digits : List Char} (hex : ∀ c ∈ digits, IsHex c) (pos : 1 ≤ digits.length)
    (le : digits.length ≤ 64) : IsAddress ('0' :: 'x' :: digits)

/-- A name is a letter or underscore, and letters, digits and underscores after it. -/
inductive IsName : List Char → Prop where
  | cons {c : Char} {rest : List Char} (start : IsNameStart c) (hrest : ∀ d ∈ rest, IsNameRest d) :
    IsName (c :: rest)

/-- The digits of base sixteen, without regard to how they are found. -/
theorem isHexDigit_iff {c : Char} : isHexDigit c = true ↔ IsHex c := by
  unfold isHexDigit hexValue? IsHex
  split
  · simp_all
  · split
    · simp_all
    · split <;> simp_all

/-- What a name may begin with. -/
theorem isIdentifierStart_iff {c : Char} :
    FunctionId.isIdentifierStart c = true ↔ IsNameStart c := by
  rw [FunctionId.isIdentifierStart, IsNameStart, Bool.or_eq_true, beq_iff_eq, isAlpha_iff, or_assoc]

theorem isIdentifierRest_iff {c : Char} : FunctionId.isIdentifierRest c = true ↔ IsNameRest c := by
  rw [IsNameRest, ← isIdentifierStart_iff, ← isDigit_iff, FunctionId.isIdentifierRest,
    FunctionId.isIdentifierStart, Char.isAlphanum, Bool.or_right_comm, Bool.or_eq_true]

/-! ## Forms that are read -/

/-- Whether a text is of a form, but for one of the given tails after it. -/
def Followed (tails : List (List Char)) (P : List Char → Prop) (s : List Char) : Prop :=
  ∃ t, P t ∧ ∃ tail ∈ tails, s = t ++ tail

/-- What may come after a part: nothing, or a line feed. -/
def partTails : List (List Char) := [[], ['\n']]

/-- A part ends at the end of the text or before a final line feed. -/
theorem isFieldEnd_iff {s : List Char} : isFieldEnd s = true ↔ s ∈ partTails := by
  simp [isFieldEnd, partTails]

variable {P : List Char → Prop} {s : List Char}

/-- A text that does not end in a line feed is of the form itself. -/
theorem Followed.of_ne (h : Followed partTails P s) (hs : ∀ t, s ≠ t ++ ['\n']) : P s := by
  obtain ⟨t, ht, tail, htail, rfl⟩ := h
  simp only [partTails, List.mem_cons, List.not_mem_nil, or_false] at htail
  rcases htail with rfl | rfl
  · rwa [List.append_nil]
  · exact absurd rfl (hs t)

/-- Without a line feed nothing follows. -/
theorem Followed.of_not_mem (h : Followed partTails P s) (hs : '\n' ∉ s) : P s :=
  h.of_ne fun t ht => hs (by simp [ht])

/-- A part is taken as far as it goes, and its end is left. -/
theorem takeWhile_dropWhile_append {p : Char → Bool} (hp : p '\n' = false) {t tail : List Char}
    (ht : ∀ c ∈ t, p c = true) (htail : tail ∈ partTails) :
    (t ++ tail).takeWhile p = t ∧ (t ++ tail).dropWhile p = tail := by
  refine Text.takeWhile_dropWhile_of_head? ht ?_
  simp only [partTails, List.mem_cons, List.not_mem_nil, or_false] at htail
  rcases htail with rfl | rfl
  · simp
  · simp [hp]

/-- An address is told by its form, but for what may follow it. -/
theorem isWellFormed_iff : Address.isWellFormed s = true ↔ Followed partTails IsAddress s := by
  constructor
  · intro h
    unfold Address.isWellFormed at h
    split at h
    · next rest =>
      simp only [Bool.and_eq_true, decide_eq_true_eq] at h
      obtain ⟨⟨hpos, hle⟩, hend⟩ := h
      have hhex : ∀ c ∈ rest.takeWhile isHexDigit, IsHex c := fun c hc =>
        isHexDigit_iff.mp (List.mem_takeWhile_imp hc)
      refine ⟨_, .digits hhex hpos hle, _, isFieldEnd_iff.mp hend, ?_⟩
      rw [List.cons_append, List.cons_append, List.takeWhile_append_dropWhile]
    · cases h
  · rintro ⟨_, ⟨hhex, hpos, hle⟩, tail, htail, rfl⟩
    obtain ⟨htake, hdrop⟩ := takeWhile_dropWhile_append (p := isHexDigit) (by decide)
      (fun c hc => isHexDigit_iff.mpr (hhex c hc)) htail
    rw [List.cons_append, List.cons_append, Address.isWellFormed, htake, hdrop,
      isFieldEnd_iff.mpr htail, Bool.and_true, Bool.and_eq_true, decide_eq_true_eq, decide_eq_true_eq]
    exact ⟨hpos, hle⟩

/-- A name is told by its form, but for what may follow it. -/
theorem isIdentifier_iff : FunctionId.isIdentifier s = true ↔ Followed partTails IsName s := by
  constructor
  · intro h
    cases s with
    | nil => cases h
    | cons c rest =>
      obtain ⟨hstart, hend⟩ := Bool.and_eq_true _ _ ▸ h
      have hrest : ∀ d ∈ rest.takeWhile FunctionId.isIdentifierRest, IsNameRest d := fun d hd =>
        isIdentifierRest_iff.mp (List.mem_takeWhile_imp hd)
      refine ⟨_, .cons (isIdentifierStart_iff.mp hstart) hrest, _, isFieldEnd_iff.mp hend, ?_⟩
      rw [List.cons_append, List.takeWhile_append_dropWhile]
  · rintro ⟨_, ⟨hstart, hrest⟩, tail, htail, rfl⟩
    have hdrop := (takeWhile_dropWhile_append (p := FunctionId.isIdentifierRest) (by decide)
      (fun d hd => isIdentifierRest_iff.mpr (hrest d hd)) htail).2
    rw [List.cons_append, FunctionId.isIdentifier, hdrop, isFieldEnd_iff.mpr htail,
      isIdentifierStart_iff.mpr hstart]
    rfl

end MovePlan.Move
