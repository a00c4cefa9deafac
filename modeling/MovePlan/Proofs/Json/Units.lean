import MovePlan.Json.Reader
import MovePlan.Json.Writer
import MovePlan.Proofs.Text.Ascii

/-!
# Strings that are written and read back

A character beyond the printing ones is written by its code units: one, or the two halves of a pair.
The reader takes a string apart into units, one for every character or escape (`readUnits_writeChar`),
and joins the halves of pairs. The units of a text are joined to the text itself
(`joinUnits_flatMap`), as no character has the code of half a pair.
-/

namespace MovePlan.Json

open Text

variable {start rest : List Char}

/-- The code units of a character. -/
def units (c : Char) : List Nat :=
  if c.toNat < 0x10000 then [c.toNat]
  else [0xD800 + (c.toNat - 0x10000) / 0x400, 0xDC00 + (c.toNat - 0x10000) % 0x400]

/-! ## How characters are written -/

/-- The letters of short escapes that are written, with the characters that they stand for. -/
def shortEscapes : List (Char × Char) :=
  [('"', '"'), ('\\', '\\'), ('n', '\n'), ('r', '\r'), ('t', '\t'), ('f', '\x0c'), ('b', '\x08')]

/-- The ways in which a character is written. -/
inductive WrittenAs (c : Char) : List Char → Prop where
  | short {e : Char} (h : (e, c) ∈ shortEscapes) : WrittenAs c ['\\', e]
  | itself (h : 0x20 ≤ c.toNat ∧ c.toNat < 0x7F) (hquote : c ≠ '"') (hslash : c ≠ '\\') :
    WrittenAs c [c]
  | unit (h : c.toNat < 0x10000) : WrittenAs c (unitEscape c.toNat)
  | pair (h : ¬ c.toNat < 0x10000) : WrittenAs c
    (unitEscape (0xD800 + (c.toNat - 0x10000) / 0x400) ++
      unitEscape (0xDC00 + (c.toNat - 0x10000) % 0x400))

theorem writtenAs_writeChar (c : Char) : WrittenAs c (writeChar c) := by
  by_cases hshort : ∃ e, (e, c) ∈ shortEscapes
  · obtain ⟨e, he⟩ := hshort
    have hall : ∀ p ∈ shortEscapes, writeChar p.2 = ['\\', p.1] := by decide
    rw [hall _ he]
    exact .short he
  · have hne : ∀ p ∈ shortEscapes, c ≠ p.2 := by
      rintro p hp rfl
      exact hshort ⟨p.1, hp⟩
    simp only [shortEscapes, List.forall_mem_cons] at hne
    obtain ⟨hquote, hslash, hfeed, hreturn, htab, hform, hback, -⟩ := hne
    rw [writeChar, if_neg hquote, if_neg hslash, if_neg hfeed, if_neg hreturn, if_neg htab,
      if_neg hform, if_neg hback]
    split
    · next hprints => exact .itself hprints hquote hslash
    · split
      · next hunit => exact .unit hunit
      · next hunit => exact .pair hunit

/-! ## Escapes -/

theorem hexFour?_hexDigits {n : Nat} (hn : n < 0x10000) :
    ∃ a b c d, hexDigits 4 n = [a, b, c, d] ∧ hexFour? a b c d = some n := by
  refine ⟨_, _, _, _, rfl, ?_⟩
  simp only [hexFour?, hexValue?_hexChar (Nat.mod_lt _ (by decide : 0 < 16)), Option.bind_eq_bind,
    Option.bind_some, Option.some.injEq]
  omega

/-- An escape of a unit is read as the unit. There is always something after it. -/
theorem readUnits_unitEscape {n : Nat} (hn : n < 0x10000) (hrest : rest ≠ []) :
    readUnits start (unitEscape n ++ rest) =
      (readUnits start rest).map fun r => (n :: r.1, r.2) := by
  obtain ⟨a, b, c, d, hdigits, hvalue⟩ := hexFour?_hexDigits hn
  obtain ⟨next, tail, rfl⟩ := List.exists_cons_of_ne_nil hrest
  rw [unitEscape, hdigits]
  simp only [List.cons_append, List.nil_append]
  rw [readUnits, if_neg (by decide), if_pos rfl]
  simp only [if_true, hvalue]

/-- A short escape is read as its character. -/
theorem readUnits_shortEscape {e x : Char} (he : e ≠ 'u') (hx : shortEscape? e = some x)
    (rest : List Char) :
    readUnits start ('\\' :: e :: rest) =
      (readUnits start rest).map fun r => (x.toNat :: r.1, r.2) := by
  rw [readUnits.eq_def]
  simp only [if_neg (by decide : '\\' ≠ '"'), if_true, if_neg he, hx]

/-- **What a character is written as is read as its units.** -/
theorem readUnits_writeChar (c : Char) (hrest : rest ≠ []) :
    readUnits start (writeChar c ++ rest) =
      (readUnits start rest).map fun r => (units c ++ r.1, r.2) := by
  have hwritten := writtenAs_writeChar c
  generalize writeChar c = text at hwritten ⊢
  cases hwritten with
  | @short e h =>
    have hall : ∀ p ∈ shortEscapes, p.1 ≠ 'u' ∧ shortEscape? p.1 = some p.2 ∧ units p.2 = [p.2.toNat] := by
      decide
    obtain ⟨he, hx, hunits⟩ := hall _ h
    rw [List.cons_append, List.singleton_append, readUnits_shortEscape he hx, hunits]
    rfl
  | itself h hquote hslash =>
    have hunits : units c = [c.toNat] := if_pos (by omega)
    have hcontrol : ¬ c.toNat < 0x20 := by omega
    rw [List.singleton_append, readUnits.eq_def]
    simp only [if_neg hquote, if_neg hslash, if_neg hcontrol, hunits]
    rfl
  | unit h =>
    rw [units, if_pos h, readUnits_unitEscape h hrest]
    rfl
  | pair h =>
    have hvalid := c.valid
    simp only [UInt32.isValidChar, Nat.isValidChar] at hvalid
    have hcode : c.toNat = c.val.toNat := rfl
    rw [units, if_neg h, List.append_assoc, readUnits_unitEscape (by omega) (by simp [unitEscape]),
      readUnits_unitEscape (by omega) hrest]
    cases readUnits start rest <;> rfl

/-! ## Texts -/

theorem readUnits_flatMap (s rest : List Char) :
    readUnits start (s.flatMap writeChar ++ '"' :: rest) = .ok (s.flatMap units, rest) := by
  induction s with
  | nil =>
    rw [List.flatMap_nil, List.nil_append, readUnits.eq_def]
    rfl
  | cons c s ih =>
    rw [List.flatMap_cons, List.append_assoc, readUnits_writeChar c (by simp), ih,
      List.flatMap_cons]
    rfl

/-- A unit that is no half of a pair is a character. -/
theorem joinUnits_cons {n : Nat} (hn : n < 0xD800 ∨ 0xDFFF < n) (us : List Nat) :
    joinUnits (n :: us) = Char.ofNat n :: joinUnits us := by
  cases us with
  | nil =>
    simp only [joinUnits]
    rw [if_neg (by omega)]
  | cons lo us => rw [joinUnits, if_neg (by omega), if_neg (by omega)]

/-- **The units of a text are joined to the text.** -/
theorem joinUnits_flatMap (s : List Char) : joinUnits (s.flatMap units) = s := by
  induction s with
  | nil => rfl
  | cons c s ih =>
    have hvalid := c.valid
    simp only [UInt32.isValidChar, Nat.isValidChar] at hvalid
    have hcode : c.toNat = c.val.toNat := rfl
    rw [List.flatMap_cons, units]
    split
    · rw [List.singleton_append, joinUnits_cons (by omega), ih, Char.ofNat_toNat]
    · have hjoined : 0x10000 + (0xD800 + (c.toNat - 0x10000) / 0x400 - 0xD800) * 0x400 +
          (0xDC00 + (c.toNat - 0x10000) % 0x400 - 0xDC00) = c.toNat := by omega
      rw [List.cons_append, List.cons_append, List.nil_append, joinUnits, if_pos (by omega), ih,
        hjoined, Char.ofNat_toNat]

/-- **A written string is read back.** -/
theorem readString_flatMap (s : String) (rest : List Char) :
    readString start (s.toList.flatMap writeChar ++ '"' :: rest) = .ok (s, rest) := by
  rw [readString, readUnits_flatMap]
  simp [Except.map, joinUnits_flatMap]

end MovePlan.Json
