import MovePlan.Diagnosis.Abort
import MovePlan.Proofs.Move.Forms
import MovePlan.Proofs.Move.Types
import MovePlan.Proofs.Text.Occurrence
import MovePlan.Proofs.Text.Word

/-!
# Aborts that are read back

A status that tells of an abort in one of its three forms is read as that abort
(`parseAbort_reads_back`): the place before the code, with a name around the code or without, and the
place after the code. What comes after may be any text that does not carry on the last word, and in which
the words of the first two forms do not occur.

The place is read up to the first double colon, since it has no colon itself. A code and a word end where
their characters do.
-/

namespace MovePlan

namespace Move

variable {s : List Char}

theorem isWord_of_isIdentifierRest {c : Char} (h : FunctionId.isIdentifierRest c = true) :
    Text.isWord c = true := by
  rcases Bool.or_eq_true_iff.1 h with h | h
  · exact Text.isWord_of_isAlphanum h
  · rw [beq_iff_eq.1 h]
    decide

theorem IsName.isWord (h : IsName s) : IsWord s := by
  obtain ⟨hstart, hrest⟩ := h
  refine ⟨List.cons_ne_nil _ _, List.all_eq_true.2 (List.forall_mem_cons.2 ⟨?_, fun d hd => ?_⟩)⟩
  · exact isIdentifierRest_iff.2 (Or.inl hstart)
  · exact isIdentifierRest_iff.2 (hrest d hd)

theorem IsWord.isBlank (h : IsWord s) : ∀ c ∈ s, Text.isBlank c = false := fun _ hc =>
  isBlank_of_isIdentifierRest (h.isIdentifierRest hc)

end Move

namespace Diagnosis

open Text

variable {c : Char} {s rest : List Char} {n : Nat}

/-! ## Codes -/

/-- A number as statuses write it: in decimal digits, not too many of them, or after `0x` in digits of base
sixteen of either case. Zeros may stand before the digits. -/
inductive IsCode (n : Nat) : List Char → Prop where
  | decimal (zeros : Nat) (hlimit : zeros + (Nat.toDigits 10 n).length ≤ Numeric.digitLimit) :
      IsCode n (List.replicate zeros '0' ++ Nat.toDigits 10 n)
  | hexadecimal (zeros : Nat) {mark : Char} {digits : List Char} (hmark : mark = 'x' ∨ mark = 'X')
      (hdigits : digits.map Char.toLower = Nat.toDigits 16 n) :
      IsCode n ('0' :: mark :: (List.replicate zeros '0' ++ digits))

/-- Whether what follows a word does not carry it on. -/
def EndsWord (rest : List Char) : Prop := ∀ c ∈ rest.head?, isWord c = false

theorem EndsWord.of_imp {p : Char → Bool} (h : EndsWord rest) (hp : ∀ c, p c = true → isWord c = true) :
    ∀ c ∈ rest.head?, p c = false := by
  intro c hc
  rw [Bool.eq_false_iff]
  intro hbad
  have hword := h c hc
  rw [hp c hbad] at hword
  cases hword

/-- A blank in front of a text without blanks is dropped. -/
theorem dropWhile_isBlank_append (hne : s ≠ []) (hs : ∀ c ∈ s, isBlank c = false) :
    (' ' :: (s ++ rest)).dropWhile isBlank = s ++ rest := by
  obtain ⟨c, tail, rfl⟩ := List.exists_cons_of_ne_nil hne
  have hc : isBlank c = false := hs c List.mem_cons_self
  rw [List.dropWhile_cons_of_pos rfl, List.cons_append, List.dropWhile_cons_of_neg (by simp [hc])]

/-- A word is told from what ends it. -/
theorem EndsWord.takeWhile_dropWhile (h : EndsWord rest) (hs : Move.IsWord s) :
    (s ++ rest).takeWhile isWord = s ∧ (s ++ rest).dropWhile isWord = rest :=
  takeWhile_dropWhile_of_head? (fun _ hc => Move.isWord_of_isIdentifierRest (hs.isIdentifierRest hc)) h

theorem endsWord_cons (h : isWord c = false) : EndsWord (c :: rest) := by
  intro d hd
  rwa [← Option.some.inj hd]

/-- The character after the first digit of a row, which is a digit too or ends the row, is no mark of base
sixteen. -/
theorem not_mark_of_digits {x : Char} {more : List Char} (hs : s ≠ []) (hdigits : ∀ c ∈ s, c.isDigit = true)
    (hrest : EndsWord rest) (h : s ++ rest = c :: x :: more) : ¬(x = 'x' ∨ x = 'X') := by
  intro hx
  have hword : isWord x = true := by rcases hx with rfl | rfl <;> rfl
  have hdigit : x.isDigit = false := by rcases hx with rfl | rfl <;> rfl
  obtain ⟨first, tail, rfl⟩ := List.exists_cons_of_ne_nil hs
  cases tail with
  | nil =>
    obtain rfl := (List.cons.inj h).2
    have hend := hrest x rfl
    rw [hword] at hend
    cases hend
  | cons d tail =>
    obtain rfl := (List.cons.inj (List.cons.inj h).2).1
    have hd := hdigits d (by simp)
    rw [hdigit] at hd
    cases hd

/-- A row of decimal digits is read as far as it goes. -/
theorem takeCode?_decimal (hs : s ≠ []) (hdigits : ∀ c ∈ s, c.isDigit = true) (hrest : EndsWord rest) :
    takeCode? (s ++ rest) = some (⟨false, s⟩, rest) := by
  obtain ⟨htake, hdrop⟩ := takeWhile_dropWhile_of_head? (p := isDigit)
    (fun c hc => isDigit_of_ascii (hdigits c hc)) (hrest.of_imp fun _ => isWord_of_isDigit)
  have hplain : ¬s.isEmpty = true := by simpa using hs
  unfold takeCode?
  split
  · next x more heq =>
    rw [if_neg fun h => not_mark_of_digits hs hdigits hrest heq h.1]
    dsimp only
    rw [htake, hdrop, if_neg hplain]
  · dsimp only
    rw [htake, hdrop, if_neg hplain]

/-- After `0x` a row of digits of base sixteen is read as far as it goes. -/
theorem takeCode?_hexadecimal {mark : Char} (hmark : mark = 'x' ∨ mark = 'X') (hs : s ≠ [])
    (hdigits : ∀ c ∈ s, isHexDigit c = true) (hrest : EndsWord rest) :
    takeCode? ('0' :: mark :: (s ++ rest)) = some (⟨true, s⟩, rest) := by
  obtain ⟨htake, hdrop⟩ := takeWhile_dropWhile_of_head? (p := isHexDigit) hdigits
    (hrest.of_imp fun _ => isWord_of_isHexDigit)
  have hgood : (mark = 'x' ∨ mark = 'X') ∧ (!s.isEmpty) = true := ⟨hmark, by simpa using hs⟩
  rw [takeCode?, htake, hdrop, if_pos hgood]

theorem isHexDigit_of_mem {digits : List Char} (h : digits.map Char.toLower = Nat.toDigits 16 n)
    (hc : c ∈ digits) : isHexDigit c = true := by
  have hmem : c.toLower ∈ Nat.toDigits 16 n := h ▸ List.mem_map_of_mem hc
  obtain ⟨d, hd, hlower⟩ := exists_of_mem_toDigits hmem
  rw [isHexDigit, ← hexValue?_toLower, hlower, hexValue?_digitChar hd]
  rfl

/-- Whether a text is taken for a code, whatever comes after it. -/
def IsTakenFor (code : List Char) (c : CodeText) : Prop :=
  ∀ rest, EndsWord rest → takeCode? (code ++ rest) = some (c, rest)

/-- **A code is taken for the number that it writes.** -/
theorem exists_isTakenFor {code : List Char} (h : IsCode n code) :
    ∃ c : CodeText, IsTakenFor code c ∧ c.value = .ok n := by
  cases h with
  | decimal zeros hlimit =>
    have hdigits : ∀ c ∈ List.replicate zeros '0' ++ Nat.toDigits 10 n, c.isDigit = true := by
      refine List.forall_mem_append.2 ⟨fun c hc => ?_, fun c => isDigit_of_mem_natText⟩
      rw [List.eq_of_mem_replicate hc]
      rfl
    have hvalue : valueOf 10 digitValue? (Nat.toDigits 10 n) = n := valueOf_natText n
    have hne : List.replicate zeros '0' ++ Nat.toDigits 10 n ≠ [] := by simp [Nat.toDigits_ne_nil]
    have hshort : (List.replicate zeros '0' ++ Nat.toDigits 10 n).length ≤ Numeric.digitLimit := by
      simpa using hlimit
    refine ⟨_, fun rest hrest => takeCode?_decimal hne hdigits hrest, ?_⟩
    rw [CodeText.value, if_neg Bool.false_ne_true, if_neg (Nat.not_lt.2 hshort),
      valueOf_replicate_append (by decide), hvalue]
  | @hexadecimal zeros mark digits hmark hdigits =>
    have hvalue : valueOf 16 hexValue? digits = n := by
      rw [← valueOf_toDigits n, ← hdigits, valueOf, valueOf, List.foldl_map]
      simp only [hexValue?_toLower]
    have hne : digits ≠ [] := by
      rintro rfl
      exact Nat.toDigits_ne_nil hdigits.symm
    have hall : ∀ c ∈ List.replicate zeros '0' ++ digits, isHexDigit c = true := by
      refine List.forall_mem_append.2 ⟨fun c hc => ?_, fun c => isHexDigit_of_mem hdigits⟩
      rw [List.eq_of_mem_replicate hc]
      rfl
    refine ⟨_, fun rest hrest => takeCode?_hexadecimal hmark (by simp [hne]) hall hrest, ?_⟩
    rw [CodeText.value, if_pos rfl, valueOf_replicate_append (by decide), hvalue]

theorem isHexDigit_of_isDigit (h : c.isDigit = true) : isHexDigit c = true :=
  Move.isHexDigit_iff.2 (Or.inl (isDigit_iff.1 h))

namespace IsCode

variable {code : List Char}

/-- A code is made of digits and the mark of base sixteen. -/
theorem of_mem (h : IsCode n code) (hc : c ∈ code) : isHexDigit c = true ∨ c = 'x' ∨ c = 'X' := by
  have hzeros : ∀ {zeros}, c ∈ List.replicate zeros '0' → isHexDigit c = true := by
    intro zeros hc
    rw [List.eq_of_mem_replicate hc]
    rfl
  cases h with
  | decimal zeros =>
    rcases List.mem_append.1 hc with hc | hc
    · exact Or.inl (hzeros hc)
    · exact Or.inl (isHexDigit_of_isDigit (isDigit_of_mem_natText hc))
  | hexadecimal zeros hmark hdigits =>
    rcases List.mem_cons.1 hc with rfl | hc
    · exact Or.inl rfl
    rcases List.mem_cons.1 hc with rfl | hc
    · exact Or.inr hmark
    rcases List.mem_append.1 hc with hc | hc
    · exact Or.inl (hzeros hc)
    · exact Or.inl (isHexDigit_of_mem hdigits hc)

/-- A code begins with a digit. -/
theorem exists_cons (h : IsCode n code) : ∃ d tail, code = d :: tail ∧ d.isDigit = true := by
  cases h with
  | decimal zeros =>
    cases zeros with
    | zero =>
      obtain ⟨d, tail, hd⟩ := List.exists_cons_of_ne_nil (Nat.toDigits_ne_nil (n := n) (b := 10))
      have hmem : d ∈ Numeric.natText n := by
        rw [Numeric.natText, hd]
        exact List.mem_cons_self
      exact ⟨d, tail, hd, isDigit_of_mem_natText hmem⟩
    | succ zeros => exact ⟨'0', _, rfl, rfl⟩
  | hexadecimal => exact ⟨'0', _, rfl, rfl⟩

theorem isWord (h : IsCode n code) : Move.IsWord code := by
  refine ⟨?_, List.all_eq_true.2 fun c hc => ?_⟩
  · obtain ⟨d, tail, rfl, -⟩ := h.exists_cons
    exact List.cons_ne_nil d tail
  · rcases h.of_mem hc with hhex | rfl | rfl
    · rw [Move.FunctionId.isIdentifierRest, isAlphanum_of_isHexDigit hhex, Bool.true_or]
    · rfl
    · rfl

end IsCode

/-! ## Places -/

/-- A text that may stand for an address in a status: it has no blank and no colon. -/
structure IsAddressText (s : List Char) : Prop where
  ne_nil : s ≠ []
  blank : ∀ c ∈ s, isBlank c = false
  colon : ':' ∉ s

variable {α : Type} {fits : List Char → Option α} {a : α} {address word taken : List Char}

/-- **A place is read up to the first double colon and the word after it**, if the rest fits. -/
theorem takeLocation?_append (hblank : ∀ c ∈ address, isBlank c = false) (hcolon : ':' ∉ address)
    (hne : taken ++ address ≠ []) (hword : Move.IsWord word)
    (hrest : EndsWord rest) (hfits : fits rest = some a) :
    takeLocation? fits taken (address ++ ':' :: ':' :: (word ++ rest)) =
      some (taken.reverse ++ address ++ ':' :: ':' :: word, a) := by
  induction address generalizing taken with
  | nil =>
    obtain ⟨htake, hdrop⟩ := hrest.takeWhile_dropWhile hword
    obtain ⟨t, ts, rfl⟩ := List.exists_cons_of_ne_nil (by simpa using hne)
    have hnonempty : ¬word.isEmpty = true := by simpa using hword.1
    simp [takeLocation?, htake, hdrop, hnonempty, hfits]
  | cons c address ih =>
    obtain ⟨hc, hblank⟩ := List.forall_mem_cons.1 hblank
    obtain ⟨hne', hcolon⟩ := not_or.1 (mt List.mem_cons.2 hcolon)
    have hlater : takeLocation? fits (c :: taken) (address ++ ':' :: ':' :: (word ++ rest)) =
        some ((c :: taken).reverse ++ address ++ ':' :: ':' :: word, a) := ih hblank hcolon (by simp)
    have hplace : (c :: taken).reverse ++ address = taken.reverse ++ c :: address := by simp
    rw [List.cons_append, takeLocation?, hc, if_neg Bool.false_ne_true, hlater, hplace]
    · rfl
    · rintro _ _ _ - rfl
      exact absurd rfl hne'

theorem IsAddressText.takeLocation? (h : IsAddressText address) (fits : List Char → Option α)
    (hword : Move.IsWord word) (hrest : EndsWord rest) (hfits : fits rest = some a) :
    takeLocation? fits [] (address ++ ':' :: ':' :: (word ++ rest)) =
      some (address ++ ':' :: ':' :: word, a) :=
  takeLocation?_append h.blank h.colon (by simpa using h.ne_nil) hword hrest hfits

/-! ## Codes after places -/

variable {name code : List Char} {number : CodeText}

theorem codeAfterLocation?_named (hname : Move.IsWord name) (htaken : IsTakenFor code number) :
    codeAfterLocation? (':' :: ' ' :: (name ++ '(' :: (code ++ ')' :: rest))) = some number := by
  have hend : EndsWord ('(' :: (code ++ ')' :: rest)) := endsWord_cons rfl
  obtain ⟨htake, hdrop⟩ := hend.takeWhile_dropWhile hname
  obtain ⟨c, tail, rfl⟩ := List.exists_cons_of_ne_nil hname.1
  have hclose : EndsWord (')' :: rest) := endsWord_cons rfl
  have hread := htaken _ hclose
  simp only [codeAfterLocation?, dropWhile_isBlank_append hname.1 hname.isBlank, htake, hdrop, hread]
  rfl

theorem codeAfterLocation?_plain (hcode : Move.IsWord code) (htaken : IsTakenFor code number)
    (hrest : EndsWord rest) (hopen : rest.head? ≠ some '(') :
    codeAfterLocation? (':' :: ' ' :: (code ++ rest)) = some number := by
  obtain ⟨htake, hdrop⟩ := hrest.takeWhile_dropWhile hcode
  have hread := htaken _ hrest
  simp only [codeAfterLocation?, dropWhile_isBlank_append hcode.1 hcode.isBlank, htake, hdrop, hread]
  split
  · exact absurd rfl hopen
  · rfl

/-- The place after a code. -/
theorem locationAfterCode?_append (haddress : IsAddressText address) (hword : Move.IsWord word)
    (hrest : EndsWord rest) :
    locationAfterCode? (" at ".toList ++ (address ++ ':' :: ':' :: (word ++ rest))) =
      some (address ++ ':' :: ':' :: word) := by
  have hat : (" at ".toList ++ (address ++ ':' :: ':' :: (word ++ rest))).dropWhile isBlank =
      'a' :: 't' :: ' ' :: (address ++ ':' :: ':' :: (word ++ rest)) := rfl
  have hafter : afterCaseless? ['a', 't'] ('a' :: 't' :: ' ' :: (address ++ ':' :: ':' :: (word ++ rest))) =
      some (' ' :: (address ++ ':' :: ':' :: (word ++ rest))) := rfl
  have hread := haddress.takeLocation? (fun _ => some ()) hword hrest rfl
  have hblanks : ¬('a' :: 't' :: ' ' :: (address ++ ':' :: ':' :: (word ++ rest))).length =
      (" at ".toList ++ (address ++ ':' :: ':' :: (word ++ rest))).length := by simp
  have hblank : ¬(address ++ ':' :: ':' :: (word ++ rest)).length =
      (' ' :: (address ++ ':' :: ':' :: (word ++ rest))).length := by simp
  simp only [locationAfterCode?, hat, hafter, dropWhile_isBlank_append haddress.ne_nil haddress.blank, hread,
    if_neg hblanks, if_neg hblank, Option.bind_eq_bind, Option.bind_some]
  rfl

/-! ## Aborts along a text -/

variable {reader : List Char → Option α}

/-- A reader finds nothing along a text exactly if it reads nothing anywhere in it. -/
theorem searchFrom_eq_none_iff : searchFrom reader s = none ↔ ∀ t, t <:+ s → reader t = none := by
  induction s with
  | nil => simp [searchFrom, List.suffix_nil]
  | cons c s ih =>
    rw [searchFrom, Option.orElse_eq_or, Option.or_eq_none_iff, ih]
    simp [List.suffix_cons_iff]

theorem searchFrom_isSome_iff :
    (searchFrom reader s).isSome = true ↔ ∃ t, t <:+ s ∧ (reader t).isSome = true := by
  rw [Option.isSome_iff_ne_none, Ne, searchFrom_eq_none_iff]
  simp [Option.isSome_iff_ne_none]

/-- What is read after characters at which nothing is read is found. -/
theorem searchFrom_append {before : List Char} (hbefore : ∀ c ∈ before, ∀ t, reader (c :: t) = none)
    (h : reader s = some a) : searchFrom reader (before ++ s) = some a := by
  induction before with
  | nil => cases s <;> simp [searchFrom, h]
  | cons c before ih =>
    obtain ⟨hc, hbefore⟩ := List.forall_mem_cons.1 hbefore
    rw [List.cons_append, searchFrom, hc]
    exact ih hbefore

theorem abortIn?_append (haddress : IsAddressText address) (hword : Move.IsWord word)
    (hrest : EndsWord rest) (hcode : codeAfterLocation? rest = some number) :
    abortIn? ("abort in ".toList ++ (address ++ ':' :: ':' :: (word ++ rest))) =
      some ⟨number, String.ofList (address ++ ':' :: ':' :: word)⟩ := by
  have hafter : afterCaseless? "abort in ".toList
      ("abort in ".toList ++ (address ++ ':' :: ':' :: (word ++ rest))) =
      some (address ++ ':' :: ':' :: (word ++ rest)) := rfl
  have hread := haddress.takeLocation? codeAfterLocation? hword hrest hcode
  rw [abortIn?, hafter, Option.bind_eq_bind, Option.bind_some, hread]
  rfl

theorem abortAt?_append (haddress : IsAddressText address) (hword : Move.IsWord word)
    (hcode : IsCode n code) (htaken : IsTakenFor code number) (hrest : EndsWord rest) :
    abortAt? ("abort: ".toList ++ (code ++ (" at ".toList ++ (address ++ ':' :: ':' :: (word ++ rest))))) =
      some ⟨number, String.ofList (address ++ ':' :: ':' :: word)⟩ := by
  have hplace := locationAfterCode?_append haddress hword hrest
  generalize htail : " at ".toList ++ (address ++ ':' :: ':' :: (word ++ rest)) = tail at hplace ⊢
  have hend : EndsWord tail := htail ▸ endsWord_cons rfl
  have hafter : afterCaseless? "abort".toList ("abort: ".toList ++ (code ++ tail)) =
      some (':' :: ' ' :: (code ++ tail)) := rfl
  have hmark : afterCaseless? ['c', 'o', 'd', 'e'] (code ++ tail) = none := by
    obtain ⟨d, rest, rfl, hd⟩ := hcode.exists_cons
    have hsame : sameLetter 'c' d = false :=
      forall_ascii (P := fun d => d.isDigit = true → sameLetter 'c' d = false) (by decide)
        (lt_of_le_of_lt (toNat_of_isDigit hd).2 (by decide)) hd
    rw [List.cons_append, afterCaseless?, hsame, if_neg Bool.false_ne_true]
  have hread : codeThenLocation? (':' :: ' ' :: (code ++ tail)) =
      some ⟨number, String.ofList (address ++ ':' :: ':' :: word)⟩ := by
    simp only [codeThenLocation?, dropWhile_isBlank_append hcode.isWord.1 hcode.isWord.isBlank, hmark,
      htaken _ hend, Option.bind_eq_bind, Option.bind_some, hplace]
    rfl
  rw [abortAt?, hafter, Option.bind_eq_bind, Option.bind_some, longestFirst]
  exact hread

variable {abort : AbortText} {status : String}

/-- An abort does not begin at a character that its first letter does not match. -/
theorem abort?_cons_eq_none (hc : sameLetter 'a' c = false) :
    abortIn? (c :: s) = none ∧ abortAt? (c :: s) = none := by
  simp [abortIn?, abortAt?, afterCaseless?, hc]

theorem sameLetter_of_mem_move : ∀ c ∈ "Move ".toList, sameLetter 'a' c = false := by simp [sameLetter]

theorem findAbort?_of_abortIn? (hstatus : status.toList = "Move ".toList ++ s) (h : abortIn? s = some abort) :
    findAbort? status = some abort := by
  have hmove : ∀ c ∈ "Move ".toList, ∀ t, abortIn? (c :: t) = none := fun c hc _ =>
    (abort?_cons_eq_none (sameLetter_of_mem_move c hc)).1
  have hfind := searchFrom_append hmove h
  rw [findAbort?, hstatus, hfind]
  rfl

/-- The code may stand before the place if the words of the other order are nowhere. -/
theorem findAbort?_of_abortAt? (hstatus : status.toList = "Move ".toList ++ s) (h : abortAt? s = some abort)
    (hnone : ¬Occurs "abort in".toList status.toList) : findAbort? status = some abort := by
  have hfirst : searchFrom abortIn? status.toList = none := by
    refine searchFrom_eq_none_iff.2 fun t ht => ?_
    have hlonger : ¬Occurs "abort in ".toList status.toList := fun hoccurs =>
      hnone (Occurs.parts (u := "abort in".toList) (v := [' ']) hoccurs).1
    rw [abortIn?, afterCaseless?_eq_none hlonger ht]
    rfl
  have hmove : ∀ c ∈ "Move ".toList, ∀ t, abortAt? (c :: t) = none := fun c hc _ =>
    (abort?_cons_eq_none (sameLetter_of_mem_move c hc)).2
  have hfind := searchFrom_append hmove h
  rw [findAbort?, hfirst, hstatus, hfind]
  rfl

theorem eq_space_of_sameLetter (h : sameLetter ' ' c = true) : c = ' ' := by
  have hlower : c.toLower = ' ' := by simpa [sameLetter] using h
  rcases Nat.lt_or_ge c.toNat 0x80 with hc | hc
  · exact forall_ascii (P := fun c => c.toLower = ' ' → c = ' ') (by decide) hc hlower
  · rwa [toLower_of_beyond_ascii hc] at hlower

theorem IsCode.sameLetter_eq_false (h : IsCode n code) (hc : c ∈ code) : sameLetter 'r' c = false := by
  rcases h.of_mem hc with hhex | rfl | rfl
  · exact forall_ascii (P := fun c => isHexDigit c = true → sameLetter 'r' c = false) (by decide)
      (toNat_of_isAlphanum (isAlphanum_of_isHexDigit hhex)) hhex
  · rfl
  · rfl

/-- The words `abort in` are not in front of a place after its code. They do not reach over a colon, and
the part up to the colons of the place has no `r` before the place and no blank in it. -/
theorem not_occurs_abort_in (haddress : IsAddressText address) (hcode : IsCode n code)
    (hagain : ¬Occurs "abort in".toList rest) :
    ¬Occurs "abort in".toList ("Move abort".toList ++
      ':' :: ((' ' :: (code ++ " at ".toList) ++ address) ++ ':' :: ([] ++ ':' :: rest))) := by
  have hcolon : ∀ p ∈ "abort in".toList, sameLetter p ':' = false := by simp [sameLetter]
  intro h
  rcases h.of_append_cons hcolon with h | h
  · have hshort : holdsCaseless "abort in".toList "Move abort".toList = false := by decide
    rw [← holdsCaseless_iff, hshort] at h
    cases h
  rcases h.of_append_cons hcolon with h | h
  · have hend : Occurs "rt in".toList (' ' :: (code ++ " at ".toList) ++ address) :=
      (Occurs.parts (u := "abo".toList) (v := "rt in".toList) h).2
    have hplace : Occurs "rt in".toList address := by
      have hcodes : ∀ c ∈ code, sameLetter 'r' c = false := fun c hc => hcode.sameLetter_eq_false hc
      have hat : ∀ c ∈ " at ".toList, sameLetter 'r' c = false := by simp [sameLetter]
      exact hend.of_append (List.forall_mem_cons.2 ⟨rfl, List.forall_mem_append.2 ⟨hcodes, hat⟩⟩)
    obtain ⟨c, hc, hspace⟩ := hplace.exists_mem (p := ' ') (by decide)
    have hblank := haddress.blank c hc
    rw [eq_space_of_sameLetter hspace] at hblank
    cases hblank
  rcases h.of_append_cons hcolon with h | h
  · cases occurs_nil_iff.1 h
  · exact hagain h

/-- An abort is read once its code has a value. -/
theorem parseAbort_of_findAbort? {location : String} (h : findAbort? status = some ⟨number, location⟩)
    (hvalue : number.value = .ok n) : parseAbort status = .ok (some ⟨n, location⟩) := by
  have hread : AbortText.read ⟨number, location⟩ = .ok ⟨n, location⟩ :=
    Error.bind_eq_ok_iff.2 ⟨n, hvalue, rfl⟩
  simp only [parseAbort, h, hread]
  rfl

/-! ## The three forms -/

variable {address module name code tail : String}

/-- **An abort is read back from each of its forms**, if the text after it does not carry on its last word. -/
theorem parseAbort_reads_back (haddress : IsAddressText address.toList) (hmodule : Move.IsName module.toList)
    (hname : Move.IsName name.toList) (hcode : IsCode n code.toList) (htail : EndsWord tail.toList)
    (hopen : tail.toList.head? ≠ some '(') (hagain : ¬Occurs "abort in".toList (module ++ tail).toList) :
    parseAbort ("Move abort in " ++ address ++ "::" ++ module ++ ": " ++ name ++ "(" ++ code ++ ")" ++ tail) =
        .ok (some ⟨n, address ++ "::" ++ module⟩) ∧
      parseAbort ("Move abort in " ++ address ++ "::" ++ module ++ ": " ++ code ++ tail) =
        .ok (some ⟨n, address ++ "::" ++ module⟩) ∧
      parseAbort ("Move abort: " ++ code ++ " at " ++ address ++ "::" ++ module ++ tail) =
        .ok (some ⟨n, address ++ "::" ++ module⟩) := by
  obtain ⟨number, htaken, hvalue⟩ := exists_isTakenFor hcode
  have hplace :
      String.ofList (address.toList ++ ':' :: ':' :: module.toList) = address ++ "::" ++ module := by
    rw [← String.toList_inj]
    simp
  rw [← hplace]
  refine ⟨parseAbort_of_findAbort? ?_ hvalue, parseAbort_of_findAbort? ?_ hvalue,
    parseAbort_of_findAbort? ?_ hvalue⟩
  · have hread : codeAfterLocation?
        (':' :: ' ' :: (name.toList ++ '(' :: (code.toList ++ ')' :: tail.toList))) = some number :=
      codeAfterLocation?_named hname.isWord htaken
    refine findAbort?_of_abortIn? ?_ (abortIn?_append haddress hmodule.isWord (endsWord_cons rfl) hread)
    simp
  · have hread := codeAfterLocation?_plain hcode.isWord htaken htail hopen
    refine findAbort?_of_abortIn? ?_ (abortIn?_append haddress hmodule.isWord (endsWord_cons rfl) hread)
    simp
  · refine findAbort?_of_abortAt? ?_ (abortAt?_append haddress hmodule.isWord hcode htaken htail) ?_
    · simp
    · have hnone := not_occurs_abort_in haddress hcode hagain
      simpa using hnone

/-- A full balance is asked of an account, and the number of the failure is written in base sixteen. -/
theorem parseAbort_insufficient_balance :
    parseAbort "Move abort in 0x1::coin: EINSUFFICIENT_BALANCE(0x1000A): not enough" =
        .ok (some ⟨65546, "0x1::coin"⟩) ∧
      parseAbort "Move abort in 0x1::coin: 0x1000A: not enough" = .ok (some ⟨65546, "0x1::coin"⟩) ∧
      parseAbort "Move abort: 0x1000A at 0x1::coin: not enough" = .ok (some ⟨65546, "0x1::coin"⟩) := by
  have haddress : IsAddressText "0x1".toList := ⟨by decide, by simp; decide, by decide⟩
  have hmodule : Move.IsName "coin".toList := .cons (by decide) (by simp; decide)
  have hname : Move.IsName "EINSUFFICIENT_BALANCE".toList := .cons (by decide) (by simp; decide)
  have hdigits : "1000A".toList.map Char.toLower = Nat.toDigits 16 65546 := by decide
  have hcode : IsCode 65546 "0x1000A".toList := .hexadecimal 0 (Or.inl rfl) hdigits
  have htail : EndsWord ": not enough".toList := endsWord_cons rfl
  have hagain : ¬Occurs "abort in".toList ("coin" ++ ": not enough").toList := by
    rw [← holdsCaseless_iff]
    decide
  have hforms := parseAbort_reads_back haddress hmodule hname hcode htail (by decide) hagain
  simpa using hforms

/-- Only a code with too many decimal digits keeps an abort from being read. -/
theorem exists_of_parseAbort_eq_error {e : Error} (h : parseAbort status = .error e) :
    ∃ digits, e = .numeralTooLong digits := by
  unfold parseAbort at h
  split at h
  · cases h
  next text _ =>
    have hvalue : text.code.value = .error e := by
      cases hcode : text.code.value <;>
        simp_all [AbortText.read, Except.map, bind, Except.bind, pure, Except.pure]
    unfold CodeText.value at hvalue
    split at hvalue
    · cases hvalue
    split at hvalue
    · exact ⟨_, (Except.error.inj hvalue).symm⟩
    · cases hvalue

/-- Such a code cannot be read. -/
theorem parseAbort_of_long_code (haddress : IsAddressText address.toList)
    (hmodule : Move.IsName module.toList) (hdigits : ∀ c ∈ code.toList, c.isDigit = true)
    (hlong : Numeric.digitLimit < code.toList.length) :
    parseAbort ("Move abort in " ++ address ++ "::" ++ module ++ ": " ++ code) =
      .error (.numeralTooLong code.toList.length) := by
  have hne : code.toList ≠ [] := by
    intro hempty
    rw [hempty] at hlong
    cases hlong
  have hword : Move.IsWord code.toList := ⟨hne, List.all_eq_true.2 fun c hc =>
    Move.isIdentifierRest_iff.2 (Or.inr (isDigit_iff.1 (hdigits c hc)))⟩
  have htaken : IsTakenFor code.toList ⟨false, code.toList⟩ := fun rest hrest =>
    takeCode?_decimal hne hdigits hrest
  have hend : EndsWord [] := nofun
  have hread := codeAfterLocation?_plain hword htaken hend (by simp)
  have hfind : findAbort? ("Move abort in " ++ address ++ "::" ++ module ++ ": " ++ code) =
      some ⟨⟨false, code.toList⟩, String.ofList (address.toList ++ ':' :: ':' :: module.toList)⟩ := by
    refine findAbort?_of_abortIn? ?_ (abortIn?_append haddress hmodule.isWord (endsWord_cons rfl) hread)
    simp
  have hvalue : CodeText.value ⟨false, code.toList⟩ = .error (.numeralTooLong code.toList.length) := by
    rw [CodeText.value, if_neg Bool.false_ne_true, if_pos hlong]
  rw [parseAbort, hfind]
  simp only [AbortText.read, hvalue]
  rfl

end Diagnosis

end MovePlan
