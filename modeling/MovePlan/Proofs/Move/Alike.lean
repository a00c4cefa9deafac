import MovePlan.Proofs.Move.Address

/-!
# Addresses that are written alike

Two addresses have the same text but for letter case exactly if they are the same and written alike
(`lowered_eq_iff`): with as many digits, and the same blanks around them. One address may be written in
many ways, with zeros in front or without.
-/

namespace MovePlan

namespace Text

variable {p : Char → Bool}

/-- Texts with the same characters of a kind around them are told by what they are together. -/
theorem eq_of_append_eq {before core after before' core' after' : List Char}
    (hbefore : ∀ c ∈ before ++ after, p c = true) (hbefore' : ∀ c ∈ before' ++ after', p c = true)
    (hcore : core ≠ [] ∧ ∀ c ∈ core, p c = false) (hcore' : core' ≠ [] ∧ ∀ c ∈ core', p c = false)
    (h : before ++ core ++ after = before' ++ core' ++ after') :
    before = before' ∧ core = core' ∧ after = after' := by
  have hstart : ∀ {before core after : List Char}, (∀ c ∈ before ++ after, p c = true) →
      (core ≠ [] ∧ ∀ c ∈ core, p c = false) → (before ++ core ++ after).takeWhile p = before := by
    intro before core after hblank ⟨hne, hcore⟩
    obtain ⟨c, rest, rfl⟩ := List.exists_cons_of_ne_nil hne
    have hhead : ∀ d ∈ (c :: rest ++ after).head?, p d = false := by
      intro d hd
      rw [← Option.some.inj hd]
      exact hcore c List.mem_cons_self
    rw [List.append_assoc]
    exact (takeWhile_dropWhile_of_head? (List.forall_mem_append.1 hblank).1 hhead).1
  have hpadded : Padded p core (before ++ core ++ after) :=
    ⟨before, after, rfl, List.forall_mem_append.1 hbefore⟩
  have hpadded' : Padded p core' (before ++ core ++ after) :=
    ⟨before', after', h, List.forall_mem_append.1 hbefore'⟩
  obtain rfl : before = before' := by rw [← hstart hbefore hcore, h, hstart hbefore' hcore']
  obtain rfl : core = core' := by rw [← hpadded.trimBy_eq hcore.2, hpadded'.trimBy_eq hcore'.2]
  exact ⟨rfl, rfl, List.append_cancel_left h⟩

end Text

namespace Move.Address

open Text

variable {s digits : List Char} {a b : String}

/-! ## The digits of an address in its text -/

theorem plain_of_isByteDigit {c : Char} (h : IsByteDigit c) :
    c.toNat < 0x80 ∧ c.toLower = c ∧ isBlank c = false ∧ c ≠ 'i' := by
  obtain ⟨n, hn, -, rfl⟩ := h
  have hall : ∀ n < 16, (hexChar n).toNat < 0x80 ∧ (hexChar n).toLower = hexChar n ∧
    isBlank (hexChar n) = false ∧ hexChar n ≠ 'i' := by decide
  exact hall n hn

/-- A text whose canonical spelling is that of an address is `0x` and the last of its digits, in lower case and
without the blanks around it. -/
theorem exists_digits_of_canonicalChars (h : canonicalChars s = '0' :: 'x' :: digits)
    (hdigits : ∀ c ∈ digits, IsByteDigit c) : ∃ last, lower (trim s) = '0' :: 'x' :: last ∧
      digits = List.replicate (addressDigits - last.length) '0' ++ last := by
  rw [canonicalChars] at h
  split at h
  · next last hlast =>
    obtain ⟨-, -, hpadded⟩ : '0' = '0' ∧ 'x' = 'x' ∧ _ := by simpa using h
    exact ⟨last, hlast, hpadded.symm⟩
  · next hother =>
    -- the text would be the spelling itself, and begin with `0x`
    subst h
    have hall : ∀ c ∈ '0' :: 'x' :: digits, c.toNat < 0x80 ∧ isBlank c = false := by
      refine List.forall_mem_cons.2 ⟨by decide, List.forall_mem_cons.2 ⟨by decide, fun c hc => ?_⟩⟩
      obtain ⟨hascii, -, hblank, -⟩ := plain_of_isByteDigit (hdigits c hc)
      exact ⟨hascii, hblank⟩
    have hlower : lower (trim ('0' :: 'x' :: digits)) = '0' :: 'x' :: digits.map Char.toLower := by
      rw [trim, trimBy_eq_self fun c hc => (hall c hc).2, lower_of_ascii fun c hc => (hall c hc).1]
      rfl
    exact absurd hlower (hother _)

/-- Whether two texts are written alike: they have as many characters, and the same blanks around them. -/
def WrittenAlike (a b : String) : Prop :=
  ∃ before after, (∀ c ∈ before ++ after, isBlank c = true) ∧
    a.toList = before ++ trim a.toList ++ after ∧ b.toList = before ++ trim b.toList ++ after ∧
    (trim a.toList).length = (trim b.toList).length

theorem exists_fullDigits_of_isSome (h : (bytes? s).isSome) : ∃ digits, trim s = '0' :: 'x' :: digits ∧
    (∀ c ∈ digits, isHexDigit c = true) ∧ canonicalChars s = '0' :: 'x' :: fullDigits digits := by
  have hwell : isWellFormed (trim s) = true := by
    by_contra hno
    rw [bytes?, if_neg hno] at h
    cases h
  obtain ⟨digits, htrim, -, hhex⟩ := exists_digits_of_isWellFormed_trim hwell
  exact ⟨digits, htrim, hhex, canonicalChars_of_trim htrim hhex⟩

/-- The same address written alike has the same text but for letter case. -/
theorem lower_eq_of_same (ha : (bytes? a.toList).isSome) (hsame : same a b = true)
    (halike : WrittenAlike a b) : lower a.toList = lower b.toList := by
  obtain ⟨digits, -, hhex, hcanonical⟩ := exists_fullDigits_of_isSome ha
  have hcanonical' : canonicalChars b.toList = '0' :: 'x' :: fullDigits digits :=
    (beq_iff_eq.1 hsame).symm.trans hcanonical
  have hbyte : ∀ c ∈ fullDigits digits, IsByteDigit c := fun c => isByteDigit_of_mem_fullDigits hhex
  obtain ⟨before, after, hblank, hatext, hbtext, hlength⟩ := halike
  -- what is true of both texts
  have hspelled : ∀ s : List Char, canonicalChars s = '0' :: 'x' :: fullDigits digits →
      ∃ last, lower (trim s) = '0' :: 'x' :: last ∧ last.length + 2 = (trim s).length ∧
        fullDigits digits = List.replicate (addressDigits - last.length) '0' ++ last ∧
        lower (before ++ trim s ++ after) = before ++ lower (trim s) ++ after := by
    intro s hs
    obtain ⟨last, hlast, hfull⟩ := exists_digits_of_canonicalChars hs hbyte
    have hplain : ∀ c ∈ trim s, IsPlain c := by
      refine isPlain_of_lower ?_
      rw [hlast]
      refine List.forall_mem_cons.2 ⟨by decide, List.forall_mem_cons.2 ⟨by decide, fun c hc => ?_⟩⟩
      obtain ⟨hascii, -, -, hi⟩ := plain_of_isByteDigit (hbyte c (hfull ▸ List.mem_append_right _ hc))
      exact ⟨hascii, hi⟩
    have hlen : (lower (trim s)).length = (trim s).length := by rw [lower_eq_map hplain, List.length_map]
    rw [hlast] at hlen
    exact ⟨last, hlast, hlen, hfull, lower_of_blanks hblank hplain⟩
  obtain ⟨x, hx, hxlength, hxfull, hxlower⟩ := hspelled a.toList hcanonical
  obtain ⟨y, hy, hylength, hyfull, hylower⟩ := hspelled b.toList hcanonical'
  obtain rfl : x = y := List.append_inj_right' (hxfull.symm.trans hyfull) (by omega)
  rw [hatext, hbtext, hxlower, hylower, hx, hy]

/-- An address is blanks around `0x` and its digits, in lower case too. -/
theorem exists_parts_of_isSome (h : (bytes? s).isSome) : ∃ before digits after,
    (∀ c ∈ before ++ after, isBlank c = true) ∧ s = before ++ trim s ++ after ∧
    trim s = '0' :: 'x' :: digits ∧ (∀ c ∈ digits.map Char.toLower, isBlank c = false) ∧
    canonicalChars s = '0' :: 'x' :: fullDigits digits ∧
    lower s = before ++ '0' :: 'x' :: digits.map Char.toLower ++ after := by
  obtain ⟨digits, htrim, hhex, hcanonical⟩ := exists_fullDigits_of_isSome h
  obtain ⟨before, after, hs, hbefore, hafter⟩ := padded_trimBy isBlank s
  have hblank := List.forall_mem_append.2 ⟨hbefore, hafter⟩
  have hascii : ∀ c ∈ trim s, c.toNat < 0x80 := by
    rw [htrim]
    refine List.forall_mem_cons.2 ⟨by decide, List.forall_mem_cons.2 ⟨by decide, fun c hc => ?_⟩⟩
    exact toNat_of_isAlphanum (isAlphanum_of_isHexDigit (hhex c hc))
  refine ⟨before, digits, after, hblank, hs, htrim, fun c hc => ?_, hcanonical, ?_⟩
  · obtain ⟨d, hd, rfl⟩ := List.mem_map.1 hc
    exact (plain_of_isByteDigit (hexValue?_of_isHexDigit (hhex d hd))).2.2.1
  · calc lower s = lower (before ++ trim s ++ after) := congrArg lower hs
      _ = before ++ lower (trim s) ++ after :=
        lower_of_blanks hblank fun c hc => isPlain_of_ascii (hascii c hc)
      _ = before ++ '0' :: 'x' :: digits.map Char.toLower ++ after := by
        rw [lower_of_ascii hascii, htrim]
        rfl

/-- **Two addresses have the same text but for letter case exactly if they are the same and written
alike.** -/
theorem lowered_eq_iff (ha : (bytes? a.toList).isSome) (hb : (bytes? b.toList).isSome) :
    lowered a = lowered b ↔ same a b = true ∧ WrittenAlike a b := by
  rw [lowered, lowered, String.ofList_inj]
  constructor
  · intro h
    obtain ⟨before, digits, after, hblank, hatext, hatrim, hcore, hacanonical, halower⟩ :=
      exists_parts_of_isSome ha
    obtain ⟨before', digits', after', hblank', hbtext, hbtrim, hcore', hbcanonical, hblower⟩ :=
      exists_parts_of_isSome hb
    have hmarked : ∀ {t : List Char}, (∀ c ∈ t, isBlank c = false) →
        '0' :: 'x' :: t ≠ [] ∧ ∀ c ∈ '0' :: 'x' :: t, isBlank c = false := fun ht =>
      ⟨List.cons_ne_nil _ _, List.forall_mem_cons.2 ⟨by decide, List.forall_mem_cons.2 ⟨by decide, ht⟩⟩⟩
    rw [halower, hblower] at h
    obtain ⟨rfl, hdigits, rfl⟩ := eq_of_append_eq hblank hblank' (hmarked hcore) (hmarked hcore') h
    obtain hdigits : digits.map Char.toLower = digits'.map Char.toLower := by simpa using hdigits
    have hlength : digits.length = digits'.length := by simpa using congrArg List.length hdigits
    refine ⟨?_, before, after, hblank, hatext, hbtext, by simp [hatrim, hbtrim, hlength]⟩
    rw [same, beq_iff_eq, hacanonical, hbcanonical, fullDigits, fullDigits, hdigits, hlength]
  · rintro ⟨hsame, halike⟩
    exact lower_eq_of_same ha hsame halike

end Move.Address

end MovePlan
