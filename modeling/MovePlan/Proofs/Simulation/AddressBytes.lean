import MovePlan.Proofs.Move.Alike
import MovePlan.Proofs.Text.Word
import MovePlan.Simulation.Analysis

/-!
# The canonical spelling of addresses

A text is read as an address exactly if it is trimmed to the form of one, and refused with its own
text otherwise (`addressBytes_reads`). Its canonical spelling is that of its 32 bytes and spells
itself. Two addresses are the same exactly if they have the same bytes, and these are told by the
number that the digits denote: zeros in front and letter case do not count, and of as many digits in
lower case there is one row for each number (`eq_of_valueOf_eq`).
-/

namespace MovePlan

namespace Move.Address

open Text

variable {s t digits : List Char} {bytes : List UInt8}

/-! ## Digits and numbers -/

/-- Digits in lower case, as many of both, are told by the number that they denote. -/
theorem eq_of_valueOf_eq (hs : ∀ c ∈ s, IsByteDigit c) (ht : ∀ c ∈ t, IsByteDigit c)
    (hlength : s.length = t.length) (h : valueOf 16 hexValue? s = valueOf 16 hexValue? t) :
    s = t := by
  induction s using List.reverseRecOn generalizing t with
  | nil => exact (List.length_eq_zero_iff.1 hlength.symm).symm
  | append_singleton s c ih =>
    obtain rfl | ⟨t, d, rfl⟩ := List.eq_nil_or_concat' t
    · simp at hlength
    · obtain ⟨hinit, hlast⟩ := List.forall_mem_append.1 hs
      obtain ⟨hinit', hlast'⟩ := List.forall_mem_append.1 ht
      obtain ⟨m, hm, hc, hcm⟩ := hlast c List.mem_cons_self
      obtain ⟨n, hn, hd, hdn⟩ := hlast' d List.mem_cons_self
      rw [valueOf_append, valueOf_append, hc, hd, Option.getD_some, Option.getD_some] at h
      -- the last digits are the remainders
      obtain rfl : m = n := by omega
      rw [ih hinit hinit' (by simpa using hlength) (by omega), ← hcm, hdn]

/-- A row of digits denotes the same number in lower case. -/
theorem valueOf_map_toLower (s : List Char) :
    valueOf 16 hexValue? (s.map Char.toLower) = valueOf 16 hexValue? s := by
  simp only [valueOf, List.foldl_map, hexValue?_toLower]

/-- The digits of an address denote one number, however it is spelled. -/
theorem valueOf_fullDigits (digits : List Char) :
    valueOf 16 hexValue? (fullDigits digits) = valueOf 16 hexValue? digits := by
  rw [fullDigits, valueOf_replicate_append (by decide), valueOf_map_toLower]

/-- The number that the digits of an address denote. -/
def number (a : String) : Nat := valueOf 16 hexValue? ((trim a.toList).drop 2)

/-! ## The digits of bytes -/

theorem isByteDigit_of_mem_hexOfBytes {c : Char} (h : c ∈ hexOfBytes bytes) : IsByteDigit c := by
  have hchar : ∀ n < 16, IsByteDigit (hexChar n) := fun n hn => ⟨n, hn, hexValue?_hexChar hn, rfl⟩
  obtain ⟨b, -, hc⟩ := List.mem_flatMap.1 h
  have hb : b.toNat < 256 := b.toNat_lt
  simp only [List.mem_cons, List.not_mem_nil, or_false] at hc
  obtain rfl | rfl := hc
  · exact hchar _ (by omega)
  · exact hchar _ (by omega)

theorem length_hexOfBytes (bytes : List UInt8) : (hexOfBytes bytes).length = 2 * bytes.length := by
  simp [hexOfBytes, List.length_flatMap, Nat.mul_comm]

/-- Whether a character is a digit of base sixteen in lower case. -/
def IsLowerHex (c : Char) : Prop := ('0' ≤ c ∧ c ≤ '9') ∨ ('a' ≤ c ∧ c ≤ 'f')

instance : DecidablePred IsLowerHex := fun _ => inferInstanceAs (Decidable (_ ∨ _))

theorem isLowerHex_of_isByteDigit {c : Char} (h : IsByteDigit c) : IsLowerHex c := by
  obtain ⟨n, hn, -, rfl⟩ := h
  have hall : ∀ n < 16, IsLowerHex (hexChar n) := by decide
  exact hall n hn

/-! ## Texts that are addresses -/

/-- A text has bytes exactly if it is trimmed to the form of an address. -/
theorem isSome_bytes?_iff : (bytes? s).isSome ↔ IsAddress (trim s) := by
  have hform : isWellFormed (trim s) = true ↔ IsAddress (trim s) :=
    ⟨fun h => (isWellFormed_iff.1 h).of_ne (trim_ne_append_lineFeed s), fun h =>
      isWellFormed_iff.2 ⟨_, h, [], List.mem_cons_self, (List.append_nil _).symm⟩⟩
  rw [← hform, bytes?]
  split <;> simp [*]

/-- An address in full has the bytes that its digits spell. -/
theorem bytes?_full (h : ∀ c ∈ digits, IsByteDigit c) (hlength : digits.length = addressDigits) :
    bytes? ('0' :: 'x' :: digits) = some (bytesOfHex digits) := by
  have hall : ∀ c ∈ '0' :: 'x' :: digits, isBlank c = false :=
    List.forall_mem_cons.2 ⟨by decide, List.forall_mem_cons.2 ⟨by decide, fun c hc =>
      (plain_of_isByteDigit (h c hc)).2.2.1⟩⟩
  have hhex : ∀ c ∈ digits, isHexDigit c = true := fun c hc => by
    obtain ⟨n, -, hn, -⟩ := h c hc
    rw [isHexDigit, hn, Option.isSome_some]
  have htrim : trim ('0' :: 'x' :: digits) = '0' :: 'x' :: digits := trimBy_eq_self hall
  have hself : fullDigits digits = digits := by
    rw [fullDigits, hlength, Nat.sub_self, List.replicate_zero, List.nil_append]
    exact (List.map_congr_left fun c hc => (plain_of_isByteDigit (h c hc)).2.1).trans (List.map_id _)
  have haddress : IsAddress ('0' :: 'x' :: digits) :=
    .digits (fun c hc => isHexDigit_iff.1 (hhex c hc)) (by rw [hlength]; decide) hlength.le
  have hwell : isWellFormed ('0' :: 'x' :: digits) = true :=
    isWellFormed_iff.2 ⟨_, haddress, [], List.mem_cons_self, (List.append_nil _).symm⟩
  simp only [bytes?, htrim, hwell, if_true, canonicalChars_of_trim htrim hhex, hself]
  rfl

/-- The canonical spelling of an address has its bytes. -/
theorem bytes?_canonicalChars (h : bytes? s = some bytes) :
    bytes? (canonicalChars s) = some bytes := by
  obtain ⟨hspelled, hlength⟩ := canonicalChars_of_bytes? h
  rw [hspelled, bytes?_full (fun _ => isByteDigit_of_mem_hexOfBytes)
    (by rw [length_hexOfBytes, hlength]; rfl), bytesOfHex_hexOfBytes]

/-- The digits of the bytes of an address denote the number that its own digits denote. -/
theorem valueOf_hexOfBytes {a : String} (h : bytes? a.toList = some bytes) :
    valueOf 16 hexValue? (hexOfBytes bytes) = number a := by
  obtain ⟨digits, htrim, -, hcanonical⟩ := exists_fullDigits_of_isSome (Option.isSome_of_eq_some h)
  have hdigits : fullDigits digits = hexOfBytes bytes := by
    simpa [hcanonical] using (canonicalChars_of_bytes? h).1
  rw [← hdigits, valueOf_fullDigits, number, htrim]
  rfl

/-- **The bytes of an address are told by the number that its digits denote.** -/
theorem bytes_eq_iff_number_eq {a b : String} {x y : List UInt8} (ha : bytes? a.toList = some x)
    (hb : bytes? b.toList = some y) : x = y ↔ number a = number b := by
  rw [← valueOf_hexOfBytes ha, ← valueOf_hexOfBytes hb]
  constructor
  · rintro rfl
    rfl
  · intro h
    refine hexOfBytes_injective (eq_of_valueOf_eq (fun _ => isByteDigit_of_mem_hexOfBytes)
      (fun _ => isByteDigit_of_mem_hexOfBytes) ?_ h)
    rw [length_hexOfBytes, length_hexOfBytes, (canonicalChars_of_bytes? ha).2,
      (canonicalChars_of_bytes? hb).2]

end Move.Address

namespace Simulation

open Move Text

theorem addressBytes_eq_ok_iff {a : String} {bytes : List UInt8} :
    addressBytes a = .ok bytes ↔ Address.bytes? a.toList = some bytes := by
  rw [addressBytes]
  cases Address.bytes? a.toList <;> simp

/-- What holds of a text that is an address with these bytes. -/
structure HasBytes (a : String) (bytes : List UInt8) : Prop where
  length : bytes.length = 32
  /-- The canonical spelling is `0x` and the digits of the bytes. -/
  canonical : Address.canonical a = "0x" ++ String.ofList (Address.hexOfBytes bytes)
  /-- There are 64 of them, all in lower case. -/
  digits : (Address.hexOfBytes bytes).length = 64 ∧
    ∀ c ∈ Address.hexOfBytes bytes, Address.IsLowerHex c
  /-- The canonical spelling is an address with the same bytes and spells itself. -/
  again : addressBytes (Address.canonical a) = .ok bytes ∧
    Address.canonical (Address.canonical a) = Address.canonical a
  /-- Another address is the same exactly if it has the same bytes. -/
  same : ∀ (b : String) (other : List UInt8), addressBytes b = .ok other →
    (Address.same a b = true ↔ bytes = other)
  /-- Bytes are the same exactly if the digits denote the same number. -/
  number : ∀ (b : String) (other : List UInt8), addressBytes b = .ok other →
    (bytes = other ↔ Address.number a = Address.number b)

/-- The outcome of reading a text as an address, by its form. -/
inductive Reading (a : String) : Except Error (List UInt8) → Prop where
  | address {bytes : List UInt8} (form : IsAddress (trim a.toList)) (h : HasBytes a bytes) :
    Reading a (.ok bytes)
  | refused (form : ¬ IsAddress (trim a.toList)) : Reading a (.error (.invalidAddress a))

theorem hasBytes_of_bytes? {a : String} {bytes : List UInt8}
    (h : Address.bytes? a.toList = some bytes) : HasBytes a bytes := by
  obtain ⟨hspelled, hlength⟩ := Address.canonicalChars_of_bytes? h
  have htext : (Address.canonical a).toList = Address.canonicalChars a.toList := String.toList_ofList
  have hagain : Address.bytes? (Address.canonical a).toList = some bytes :=
    htext ▸ Address.bytes?_canonicalChars h
  have hcanonical : Address.canonical a = "0x" ++ String.ofList (Address.hexOfBytes bytes) := by
    rw [Address.canonical, hspelled, ← String.toList_inj]
    simp
  exact
    { length := hlength
      canonical := hcanonical
      digits := ⟨by rw [Address.length_hexOfBytes, hlength],
        fun c hc => Address.isLowerHex_of_isByteDigit (Address.isByteDigit_of_mem_hexOfBytes hc)⟩
      again := by
        refine ⟨addressBytes_eq_ok_iff.2 hagain, ?_⟩
        rw [Address.canonical, (Address.canonicalChars_of_bytes? hagain).1, ← hspelled,
          ← Address.canonical]
      same := fun b other hb => Address.same_iff_of_bytes? h (addressBytes_eq_ok_iff.1 hb)
      number := fun b other hb => Address.bytes_eq_iff_number_eq h (addressBytes_eq_ok_iff.1 hb) }

/-- **Reading an address**: exactly the texts of its form have bytes, and these determine the
canonical spelling and which other texts are the same address. -/
theorem addressBytes_reads (a : String) : Reading a (addressBytes a) := by
  rw [addressBytes]
  cases h : Address.bytes? a.toList with
  | some bytes => exact .address (Address.isSome_bytes?_iff.1 (by simp [h])) (hasBytes_of_bytes? h)
  | none =>
    refine .refused fun hform => ?_
    have hsome := Address.isSome_bytes?_iff.2 hform
    rw [h] at hsome
    cases hsome

end Simulation

end MovePlan
