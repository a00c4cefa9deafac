import Mathlib.Data.List.DropRight
import MovePlan.Proofs.Move.Forms
import MovePlan.Proofs.Text.Blank
import MovePlan.Proofs.Text.Case

/-!
# Addresses and their bytes

A text that is an address is trimmed to `0x` and one to 64 hexadecimal digits, and has 32 bytes. Its
canonical spelling is that of its bytes (`canonicalChars_of_bytes?`), so that two addresses are the
same exactly if they have the same bytes (`same_iff_of_bytes?`), however they are spelled.
-/

namespace MovePlan

namespace Text

/-- A trimmed text does not end in a line feed. -/
theorem trim_ne_append_lineFeed (s t : List Char) : trim s ≠ t ++ ['\n'] := by
  intro h
  have hne : (s.dropWhile isBlank).rdropWhile isBlank ≠ [] := by
    rw [← dropWhileEnd_eq]
    intro hnil
    rw [trim, trimBy, hnil] at h
    simp at h
  have hlast := List.rdropWhile_last_not isBlank (s.dropWhile isBlank) hne
  have hfeed : ((s.dropWhile isBlank).rdropWhile isBlank).getLast hne = '\n' := by
    have heq : (s.dropWhile isBlank).rdropWhile isBlank = t ++ ['\n'] := h
    simp [heq]
  rw [hfeed] at hlast
  exact hlast (by decide)

/-! ## Hexadecimal digits -/

/-- The value of a digit of base sixteen is that of the digit in lower case, which it is written as. -/
theorem hexValue?_of_isHexDigit {c : Char} (h : isHexDigit c = true) :
    ∃ n < 16, hexValue? c.toLower = some n ∧ hexChar n = c.toLower := by
  have hall : ∀ c : Char, c.toNat < 0x80 → isHexDigit c = true →
      ((hexValue? c.toLower).any fun n => decide (n < 16) && hexChar n == c.toLower) = true :=
    fun c => forall_ascii (P := fun c => isHexDigit c = true →
      ((hexValue? c.toLower).any fun n => decide (n < 16) && hexChar n == c.toLower) = true) (by decide)
  have hc := hall c (toNat_of_isAlphanum (isAlphanum_of_isHexDigit h)) h
  obtain ⟨n, hn, hgood⟩ := (Option.any_eq_true _ _).mp hc
  simp only [Bool.and_eq_true, decide_eq_true_eq, beq_iff_eq] at hgood
  exact ⟨n, hgood.1, hn, hgood.2⟩

end Text

namespace Move.Address

open Text

/-! ## Bytes and their digits -/

/-- Whether a character is a digit that bytes are written with. -/
def IsByteDigit (c : Char) : Prop := ∃ n < 16, hexValue? c = some n ∧ hexChar n = c

theorem hexOfBytes_cons (b : UInt8) (bytes : List UInt8) : hexOfBytes (b :: bytes) =
    hexChar (b.toNat / 16) :: hexChar (b.toNat % 16) :: hexOfBytes bytes := rfl

/-- Digits in pairs are those of the bytes that they spell. -/
theorem hexOfBytes_bytesOfHex {s : List Char} (heven : s.length % 2 = 0)
    (h : ∀ c ∈ s, IsByteDigit c) : hexOfBytes (bytesOfHex s) = s := by
  fun_induction bytesOfHex s with
  | case1 a b rest ih =>
    obtain ⟨m, hm, ha, hma⟩ := h a (by simp)
    obtain ⟨n, hn, hb, hnb⟩ := h b (by simp)
    have hbyte : (UInt8.ofNat (m * 16 + n)).toNat = m * 16 + n := by
      rw [UInt8.toNat_ofNat']
      omega
    have hrest := ih (by simp only [List.length_cons] at heven; omega)
      fun c hc => h c (List.mem_cons_of_mem a (List.mem_cons_of_mem b hc))
    have hhigh : (m * 16 + n) / 16 = m := by omega
    have hlow : (m * 16 + n) % 16 = n := by omega
    rw [hexOfBytes_cons, ha, hb, Option.getD_some, Option.getD_some, hbyte, hhigh, hlow, hma, hnb,
      hrest]
  | case2 s hshort =>
    -- fewer than two digits, and an even number of them
    match s with
    | [] => rfl
    | [a] => simp at heven
    | a :: b :: rest => exact absurd rfl (hshort a b rest)

theorem length_bytesOfHex (s : List Char) : (bytesOfHex s).length = s.length / 2 := by
  fun_induction bytesOfHex s with
  | case1 a b rest ih =>
    simp only [List.length_cons, ih]
    omega
  | case2 s hshort =>
    match s with
    | [] => rfl
    | [a] => simp
    | a :: b :: rest => exact absurd rfl (hshort a b rest)

theorem bytesOfHex_hexOfBytes (bytes : List UInt8) : bytesOfHex (hexOfBytes bytes) = bytes := by
  induction bytes with
  | nil => rfl
  | cons b rest ih =>
    have hb : b.toNat < 256 := b.toNat_lt
    have hsum : b.toNat / 16 * 16 + b.toNat % 16 = b.toNat := by omega
    rw [hexOfBytes_cons, bytesOfHex, ih, hexValue?_hexChar (by omega), hexValue?_hexChar (by omega),
      Option.getD_some, Option.getD_some, hsum, UInt8.ofNat_toNat]

/-- Bytes are told by their digits. -/
theorem hexOfBytes_injective : Function.Injective hexOfBytes :=
  Function.LeftInverse.injective bytesOfHex_hexOfBytes

/-! ## Addresses -/

variable {s : List Char} {bytes : List UInt8}

/-- An address is trimmed to `0x` and its digits. -/
theorem exists_digits_of_isWellFormed_trim (h : isWellFormed (trim s) = true) :
    ∃ digits, trim s = '0' :: 'x' :: digits ∧ digits.length ≤ addressDigits ∧
      ∀ c ∈ digits, isHexDigit c = true := by
  -- the line feed that may follow an address is trimmed off
  have haddress : IsAddress (trim s) := (isWellFormed_iff.mp h).of_ne (trim_ne_append_lineFeed s)
  generalize trim s = t at haddress
  obtain ⟨hhex, -, hle⟩ := haddress
  exact ⟨_, rfl, hle, fun c hc => isHexDigit_iff.mpr (hhex c hc)⟩

/-- The digits of an address in canonical spelling. -/
def fullDigits (digits : List Char) : List Char :=
  List.replicate (addressDigits - digits.length) '0' ++ digits.map Char.toLower

theorem length_fullDigits {digits : List Char} (h : digits.length ≤ addressDigits) :
    (fullDigits digits).length = addressDigits := by
  rw [fullDigits, List.length_append, List.length_replicate, List.length_map]
  omega

theorem isByteDigit_of_mem_fullDigits {digits : List Char} {c : Char}
    (h : ∀ c ∈ digits, isHexDigit c = true) (hc : c ∈ fullDigits digits) : IsByteDigit c := by
  rcases List.mem_append.mp hc with hzero | hdigit
  · rw [List.eq_of_mem_replicate hzero]
    exact ⟨0, by decide, by decide, by decide⟩
  · obtain ⟨d, hd, rfl⟩ := List.mem_map.mp hdigit
    exact hexValue?_of_isHexDigit (h d hd)

theorem canonicalChars_of_trim {digits : List Char} (htrim : trim s = '0' :: 'x' :: digits)
    (h : ∀ c ∈ digits, isHexDigit c = true) :
    canonicalChars s = '0' :: 'x' :: fullDigits digits := by
  have hascii : ∀ c ∈ trim s, c.toNat < 0x80 := by
    rw [htrim]
    refine List.forall_mem_cons.mpr ⟨by decide, List.forall_mem_cons.mpr ⟨by decide, ?_⟩⟩
    exact fun c hc => toNat_of_isAlphanum (isAlphanum_of_isHexDigit (h c hc))
  have hlower : lower (trim s) = '0' :: 'x' :: digits.map Char.toLower := by
    rw [lower_of_ascii hascii, htrim]
    rfl
  rw [canonicalChars, hlower]
  simp [fullDigits]

/-- **The canonical spelling of an address is that of its bytes**, of which there are 32. -/
theorem canonicalChars_of_bytes? (h : bytes? s = some bytes) :
    canonicalChars s = '0' :: 'x' :: hexOfBytes bytes ∧ bytes.length = 32 := by
  rw [bytes?] at h
  split at h
  · next hwell =>
    obtain ⟨digits, htrim, hlen, hhex⟩ := exists_digits_of_isWellFormed_trim hwell
    have hblank : ∀ c ∈ trim s, isBlank c = false := by
      rw [htrim]
      refine List.forall_mem_cons.mpr ⟨by decide, List.forall_mem_cons.mpr ⟨by decide, ?_⟩⟩
      exact fun c hc => isBlank_of_isAlphanum (isAlphanum_of_isHexDigit (hhex c hc))
    have htwice : trim (trim s) = '0' :: 'x' :: digits := by
      rw [trim, trimBy_eq_self hblank, htrim]
    have hlength := length_fullDigits hlen
    have hspelled : hexOfBytes (bytesOfHex (fullDigits digits)) = fullDigits digits :=
      hexOfBytes_bytesOfHex (by rw [hlength]; rfl) fun _ => isByteDigit_of_mem_fullDigits hhex
    rw [canonicalChars_of_trim htwice hhex] at h
    obtain rfl : bytesOfHex (fullDigits digits) = bytes := Option.some.inj h
    refine ⟨?_, ?_⟩
    · rw [canonicalChars_of_trim htrim hhex, hspelled]
    · rw [length_bytesOfHex, hlength]
      rfl
  · cases h

/-- **Two addresses are the same exactly if they have the same bytes.** -/
theorem same_iff_of_bytes? {a b : String} {x y : List UInt8} (ha : bytes? a.toList = some x)
    (hb : bytes? b.toList = some y) : same a b = true ↔ x = y := by
  obtain ⟨hcanonical, -⟩ := canonicalChars_of_bytes? ha
  obtain ⟨hcanonical', -⟩ := canonicalChars_of_bytes? hb
  rw [same, beq_iff_eq, hcanonical, hcanonical']
  constructor
  · intro h
    exact hexOfBytes_injective (List.cons.inj (List.cons.inj h).2).2
  · rintro rfl
    rfl

end Move.Address

end MovePlan
