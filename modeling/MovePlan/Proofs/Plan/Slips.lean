import MovePlan.Proofs.Plan.Mending
import MovePlan.Proofs.Move.Address

/-!
# Fields with slips

What may be written for the value of a field is told by its slip (`Slip.Writes`): an integer as its
text, a mode or a kind in another spelling, a function without its `0x`, null for no type arguments.
The repair of such a field is what was meant, and a field without a slip stays (`repair?_restores`).
-/

namespace MovePlan.Plan

open Graph Json Move Text Numeric

/-- Whether a character separates the words of a mode. -/
def isSeparator (c : Char) : Bool := c == '_' || c == '-' || c == ' '

/-- A text without separators, in small letters of ASCII. -/
def squeezed (s : List Char) : List Char := (s.filter (!isSeparator ·)).map Char.toLower

/-- What a slip may write for a value. -/
def Slip.Writes : Slip → Json → Json → Prop
  | .returnIndex, v, w | .decimals, v, w => ∃ n s, v = .int n ∧ w = .str s ∧
      hasText n = true ∧ Padded (· == ' ') (intText n) s.toList
  | .mode, v, w => ∃ s t, v = .str s ∧ w = .str t ∧ squeezed t.toList = squeezed s.toList
  | .kind, v, w => ∃ s t core, v = .str s ∧ w = .str t ∧ Padded (· == ' ') core t.toList ∧
      core.map Char.toLower = s.toList.map Char.toLower
  | .function, v, w => ∃ s t, v = .str s ∧ w = .str t ∧ s.toList = '0' :: 'x' :: t.toList
  | .typeArguments, v, w => v = .arr [] ∧ w = .null

/-! ## Integers -/

/-- A number that was written as a text is found again. -/
theorem repairInteger?_of_padded {n : Int} {s : String} (hn : hasText n = true)
    (h : Padded (· == ' ') (intText n) s.toList) : repairInteger? (.str s) = some n := by
  have htrim : trim s.toList = intText n :=
    (h.imp fun _ => isBlank_of_eq_space).trimBy_eq fun _ => isBlank_of_mem_intText
  rw [repairInteger?, Json.text?, Option.bind_some, htrim, readInt?_intText hn]

/-! ## Modes -/

theorem toNat_of_isSeparator {c : Char} (h : isSeparator c = true) : c.toNat < 0x80 := by
  simp only [isSeparator, Bool.or_eq_true, beq_iff_eq] at h
  rcases h with (rfl | rfl) | rfl <;> decide

theorem isLower_toLower_of_isSeparator {c : Char} (h : isSeparator c = true) :
    c.toLower.isLower = false := by
  simp only [isSeparator, Bool.or_eq_true, beq_iff_eq] at h
  rcases h with (rfl | rfl) | rfl <;> decide

/-- Where nothing but letters is left of a text without its separators, that is what is left of it
without all but its letters. -/
theorem letters_eq_squeezed {s : String} (h : ∀ c ∈ squeezed s.toList, c.isLower = true) :
    letters s = squeezed s.toList := by
  have hlower : ∀ c ∈ s.toList, isSeparator c = false → c.toLower.isLower = true := by
    intro c hc hsep
    exact h _ (List.mem_map_of_mem (List.mem_filter.mpr ⟨hc, by rw [hsep]; rfl⟩))
  have hascii : ∀ c ∈ s.toList, c.toNat < 0x80 := by
    intro c hc
    cases hsep : isSeparator c with
    | false => exact toNat_of_isLower_toLower (hlower c hc hsep)
    | true => exact toNat_of_isSeparator hsep
  -- what is no separator is a letter, so that both filters keep the same
  rw [letters_eq, lower_of_ascii hascii, squeezed, List.filter_map]
  congr 1
  refine List.filter_congr fun c hc => ?_
  cases hsep : isSeparator c with
  | false => simp [hlower c hc hsep]
  | true => simp [isLower_toLower_of_isSeparator hsep]

/-- A mode is known from its letters. -/
theorem modeOfLetters?_squeezed (m : Mode) : modeOfLetters? (squeezed m.word.toList) = some m := by
  cases m <;> decide

/-- No two modes have the same letters. -/
theorem squeezed_word_injective {m n : Mode}
    (h : squeezed m.word.toList = squeezed n.word.toList) : m = n := by
  have := modeOfLetters?_squeezed m
  rw [h, modeOfLetters?_squeezed] at this
  exact (Option.some.inj this).symm

/-- A mode that was respelled is found again. -/
theorem repairMode?_of_squeezed {m : Mode} {s : String}
    (h : squeezed s.toList = squeezed m.word.toList) :
    ((repairMode? s).map Mode.word).getD s = m.word := by
  unfold repairMode?
  split
  · next hword =>
    obtain ⟨n, hn⟩ := Option.isSome_iff_exists.mp hword
    have hs := Mode.eq_word_of_ofWord? hn
    rw [hs] at h
    rw [← squeezed_word_injective h]
    exact hs
  · have hlower : ∀ c ∈ squeezed s.toList, c.isLower = true := by
      rw [h]
      exact List.all_eq_true.mp (by cases m <;> decide)
    rw [letters_eq_squeezed hlower, h, modeOfLetters?_squeezed]
    rfl

/-! ## Kinds -/

theorem map_toLower_kindWord {s : String} (h : s ∈ kindWords) :
    s.toList.map Char.toLower = s.toList ∧ ∀ c ∈ s.toList, c.isLower = true := by
  simp only [kindWords, List.mem_cons, List.not_mem_nil, or_false] at h
  rcases h with rfl | rfl | rfl <;> exact ⟨by decide, List.all_eq_true.mp (by decide)⟩

/-- The word of a kind has no blanks around it. -/
theorem trim_kindWord {s : String} (h : s ∈ kindWords) : trim s.toList = s.toList := by
  simp only [kindWords, List.mem_cons, List.not_mem_nil, or_false] at h
  rcases h with rfl | rfl | rfl <;> decide

/-- A kind that was respelled is found again. -/
theorem repairKind?_of_padded {s t : String} {core : List Char} (hs : s ∈ kindWords)
    (ht : Padded (· == ' ') core t.toList)
    (hcore : core.map Char.toLower = s.toList.map Char.toLower) : (repairKind? t).getD t = s := by
  obtain ⟨hsame, hletters⟩ := map_toLower_kindWord hs
  rw [hsame] at hcore
  have hlower : ∀ c ∈ core, c.toLower.isLower = true := fun c hc =>
    hletters _ (hcore ▸ List.mem_map_of_mem hc)
  have htrim : trim t.toList = core :=
    (ht.imp fun _ => isBlank_of_eq_space).trimBy_eq fun c hc =>
      isBlank_of_isLower_toLower (hlower c hc)
  have hplain : String.ofList (lower (trim t.toList)) = s := by
    rw [htrim, lower_of_ascii fun c hc => toNat_of_isLower_toLower (hlower c hc), hcore,
      String.ofList_toList]
  simp only [repairKind?, hplain, List.contains_iff_mem.mpr hs, Bool.and_true]
  by_cases hmem : t ∈ kindWords
  · rw [if_neg (by simp [hmem]), Option.getD_none, ← hplain, trim_kindWord hmem,
      lower_kindWord hmem, String.ofList_toList]
  · rw [if_pos (by simpa using hmem), Option.getD_some]

/-! ## Functions -/

/-- Whether a function id is one without line feeds. The reading of ids passes over a line feed at the
end of each part. -/
def IsStrict (id : FunctionId) : Prop := '\n' ∉ id.text.toList

instance (id : FunctionId) : Decidable (IsStrict id) := inferInstanceAs (Decidable ('\n' ∉ _))

theorem isBlank_of_mem_identifier {s : List Char} (h : FunctionId.isIdentifier s = true)
    (hs : '\n' ∉ s) : ∀ c ∈ s, isBlank c = false := by
  have hrest : ∀ c, IsNameRest c → isBlank c = false := by
    intro c hc
    rcases Bool.or_eq_true _ _ ▸ isIdentifierRest_iff.mpr hc with hc | hc
    · exact isBlank_of_isAlphanum hc
    · rw [beq_iff_eq.mp hc]
      decide
  obtain ⟨hstart, htail⟩ := (isIdentifier_iff.mp h).of_not_mem hs
  exact List.forall_mem_cons.mpr ⟨hrest _ (Or.inl hstart), fun d hd => hrest d (htail d hd)⟩

/-- The address of a strict function id is `0x` and 1 to 64 digits. -/
theorem exists_digits_of_isStrict {id : FunctionId} (h : IsStrict id) :
    ∃ digits, id.address.toList = '0' :: 'x' :: digits ∧ (∀ c ∈ digits, isHexDigit c = true) ∧
      1 ≤ digits.length ∧ digits.length ≤ addressDigits := by
  have hline : '\n' ∉ id.address.toList := fun hm => h (by rw [FunctionId.toList_text]; simp [hm])
  have haddress := (isWellFormed_iff.mp id.isWellFormed_address).of_not_mem hline
  generalize id.address.toList = a at haddress
  obtain ⟨hhex, hpos, hle⟩ := haddress
  exact ⟨_, rfl, fun c hc => isHexDigit_iff.mpr (hhex c hc), hpos, hle⟩

/-- A function id has no blanks in it. -/
theorem isBlank_of_mem_text {id : FunctionId} (h : IsStrict id) :
    ∀ c ∈ id.text.toList, isBlank c = false := by
  obtain ⟨digits, haddress, hhex, -⟩ := exists_digits_of_isStrict h
  have hlines : '\n' ∉ id.text.toList := h
  rw [FunctionId.toList_text, haddress] at hlines ⊢
  simp only [List.mem_append, List.mem_cons, not_or] at hlines ⊢
  obtain ⟨-, -, -, hmodule, -, -, hfunction⟩ := hlines
  rintro c ((rfl | rfl | hc) | rfl | rfl | hc | rfl | rfl | hc)
  case inl.inr.inr => exact isBlank_of_isAlphanum (isAlphanum_of_isHexDigit (hhex c hc))
  case inr.inr.inr.inl => exact isBlank_of_mem_identifier id.isIdentifier_module hmodule c hc
  case inr.inr.inr.inr.inr.inr =>
    exact isBlank_of_mem_identifier id.isIdentifier_function hfunction c hc
  all_goals decide

/-- Digits do not look like an address with its `0x`. -/
theorem take_two_lower_ne {digits : List Char} (h : ∀ c ∈ digits, isHexDigit c = true) :
    (lower digits).take 2 ≠ ['0', 'x'] := by
  intro hx
  have hmem : 'x' ∈ lower digits := List.mem_of_mem_take (i := 2) (by rw [hx]; simp)
  rw [lower_of_ascii fun c hc => toNat_of_isAlphanum (isAlphanum_of_isHexDigit (h c hc))] at hmem
  obtain ⟨c, hc, hcx⟩ := List.mem_map.mp hmem
  exact toLower_ne_of_isHexDigit (h c hc) hcx

/-- A strict function id comes back from its text without the `0x`. -/
theorem repairFunction?_of_isStrict {id : FunctionId} (h : IsStrict id) {s : List Char}
    (hs : id.text.toList = '0' :: 'x' :: s) : repairFunction? s = some id.text.toList := by
  obtain ⟨digits, haddress, hhex, hpos, hlen⟩ := exists_digits_of_isStrict h
  have htrim : trim s = s :=
    trimBy_eq_self fun c hc => isBlank_of_mem_text h c (by rw [hs]; simp [hc])
  have htext := FunctionId.toList_text id
  rw [haddress, hs, List.cons_append, List.cons_append] at htext
  have hcut : s = digits ++ ':' :: ':' :: (id.module.toList ++ ':' :: ':' :: id.function.toList) :=
    (List.cons.inj (List.cons.inj htext).2).2
  have hcolon : ':' ∉ digits := fun hm => absurd (hhex ':' hm) (by decide)
  have hbare : isBareHex digits = true := by
    simp [isBareHex, List.takeWhile_eq_self_iff.mpr hhex, List.dropWhile_eq_nil_iff.mpr hhex,
      hpos, hlen, isFieldEnd]
  rw [repairFunction?, htrim, hs, hcut, cutPath?_append _ hcolon]
  exact if_pos ⟨take_two_lower_ne hhex, hbare⟩

/-! ## Fields -/

/-- The values that a written plan has for the field of a slip. -/
def Slip.Meant : Slip → Json → Prop
  | .returnIndex, v | .decimals, v => ∃ n, v = .int n
  | .mode, v => ∃ m : Mode, v = .str m.word
  | .kind, v => ∃ s ∈ kindWords, v = .str s
  | .function, v => ∃ id, IsStrict id ∧ v = .str id.text
  | .typeArguments, v => ∃ ts, v = .arr ts

theorem getD_map_str {α : Type} (f : α → String) (o : Option α) (s : String) :
    (o.map fun a => Json.str (f a)).getD (.str s) = .str ((o.map f).getD s) := by
  cases o <;> rfl

theorem kind_repair? {s t : String} (h : (repairKind? t).getD t = s) :
    (Slip.kind.repair? (.str t)).getD (.str t) = .str s := by
  rw [← h]
  exact (getD_map_str id _ t).trans (by rw [Option.map_id]; rfl)

theorem mode_repair? {m : Mode} {t : String} (h : ((repairMode? t).map Mode.word).getD t = m.word) :
    (Slip.mode.repair? (.str t)).getD (.str t) = .str m.word := by
  rw [← h]
  exact getD_map_str Mode.word _ t

/-- Whatever a slip makes of a field, its repair undoes. -/
theorem repair?_of_writes {slip : Slip} {v w : Json} (hv : slip.Meant v) (h : slip.Writes v w) :
    (slip.repair? w).getD w = v := by
  cases slip with
  | returnIndex | decimals =>
    obtain ⟨n, s, rfl, rfl, hn, hs⟩ := h
    rw [Slip.repair?, repairInteger?_of_padded hn hs]
    rfl
  | mode =>
    obtain ⟨m, rfl⟩ := hv
    obtain ⟨s, t, hs, rfl, hsqueezed⟩ := h
    obtain rfl := Json.str.inj hs
    exact mode_repair? (repairMode?_of_squeezed hsqueezed)
  | kind =>
    obtain ⟨s, hs, rfl⟩ := hv
    obtain ⟨s', t, core, hs', rfl, ht, hcore⟩ := h
    obtain rfl := Json.str.inj hs'
    exact kind_repair? (repairKind?_of_padded hs ht hcore)
  | function =>
    obtain ⟨id, hid, rfl⟩ := hv
    obtain ⟨s, t, hs, rfl, ht⟩ := h
    obtain rfl := Json.str.inj hs
    rw [Slip.repair?, Json.text?, Option.bind_some, repairFunction?_of_isStrict hid ht]
    exact congrArg Json.str String.ofList_toList
  | typeArguments =>
    obtain ⟨rfl, rfl⟩ := h
    rfl

/-- A field without a slip is left as it is. -/
theorem repair?_of_meant {slip : Slip} {v : Json} (hv : slip.Meant v) :
    (slip.repair? v).getD v = v := by
  cases slip with
  | returnIndex | decimals =>
    obtain ⟨n, rfl⟩ := hv
    rfl
  | mode =>
    obtain ⟨m, rfl⟩ := hv
    exact mode_repair? (repairMode?_of_squeezed rfl)
  | kind =>
    obtain ⟨s, hs, rfl⟩ := hv
    exact kind_repair? (repairKind?_of_padded hs ⟨[], [], by simp, by simp, by simp⟩ rfl)
  | function =>
    obtain ⟨id, hid, rfl⟩ := hv
    obtain ⟨digits, haddress, -⟩ := exists_digits_of_isStrict hid
    rw [Slip.repair?, Json.text?, Option.bind_some, FunctionId.toList_text, haddress, List.cons_append,
      List.cons_append, repairFunction?_hex]
    rfl
  | typeArguments =>
    obtain ⟨ts, rfl⟩ := hv
    rfl

/-- **A field that has a slip, or has none, is repaired to what was meant.** -/
theorem repair?_restores (slip : Slip) {v w : Json} (hv : slip.Meant v)
    (h : v = w ∨ slip.Writes v w) : (slip.repair? w).getD w = v := by
  rcases h with rfl | h
  · exact repair?_of_meant hv
  · exact repair?_of_writes hv h

end MovePlan.Plan
