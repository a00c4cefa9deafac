import MovePlan.Numeric.Written
import MovePlan.Text.Numeral
import MovePlan.Proofs.Text.Ascii
import MovePlan.Proofs.Text.Blank

/-!
# Numerals that are written and read

A written integer is read back if it has a text (`readInt?_intText`), which it has exactly if it lies
between two powers of ten (`hasText_iff`). What is read of any other text is what its digits spell:
`Spells` tells the form of a numeral without regard to how it is read.
-/

namespace MovePlan.Text

open Numeric

/-! ## Digits of ASCII -/

theorem digitValue?_of_ascii {c : Char} (h : c.isDigit = true) :
    digitValue? c = some (c.toNat - '0'.toNat) := by
  obtain ⟨h0, h9⟩ := toNat_of_isDigit h
  simp [digitValue?, digitZeros, h0, h9]

theorem isBlank_of_isNumeralBlank {c : Char} (h : isNumeralBlank c = true) : isBlank c = true := by
  rw [isNumeralBlank, Bool.and_eq_true] at h
  exact h.1

theorem isNumeralBlank_eq_false {c : Char} (h : isBlank c = false) : isNumeralBlank c = false := by
  rw [isNumeralBlank, h, Bool.false_and]

/-- The value of digits of ASCII. -/
theorem valueOf_eq_ofDigitChars {s : List Char} (h : ∀ c ∈ s, c.isDigit = true) :
    valueOf 10 digitValue? s = Nat.ofDigitChars 10 s 0 := by
  rw [valueOf, Nat.ofDigitChars_eq_foldl]
  refine List.foldl_ext _ _ 0 fun n c hc => ?_
  rw [digitValue?_of_ascii (h c hc), Option.getD_some]

/-! ## Written integers -/

theorem isDigit_of_mem_natText {n : Nat} {c : Char} (h : c ∈ natText n) : c.isDigit = true :=
  Nat.isDigit_of_mem_toDigits (by decide) (by decide) h

theorem natText_ne_nil (n : Nat) : natText n ≠ [] := Nat.toDigits_ne_nil

theorem valueOf_natText (n : Nat) : valueOf 10 digitValue? (natText n) = n := by
  rw [valueOf_eq_ofDigitChars fun _ => isDigit_of_mem_natText]
  exact Nat.ofDigitChars_toDigits (by decide) (by decide)

theorem natText_injective {m n : Nat} (h : natText m = natText n) : m = n := by
  rw [← valueOf_natText m, h, valueOf_natText]

/-- A number has as many digits as its place among the powers of ten tells. -/
theorem length_natText_le_iff {n k : Nat} (hk : 0 < k) : (natText n).length ≤ k ↔ n < tenTo k :=
  Nat.length_toDigits_le_iff (by decide) hk

/-- **An integer has a text** exactly if its magnitude is below the power of ten that has too many
digits. -/
theorem hasText_iff {n : Int} : hasText n = true ↔ n.natAbs < tenTo digitLimit := by
  rw [hasText, decide_eq_true_eq, length_natText_le_iff (by decide)]

@[simp] theorem hasText_neg (n : Int) : hasText (-n) = hasText n := by
  rw [hasText, hasText, Int.natAbs_neg]

/-- The power of ten that has too many digits has no text. -/
theorem hasText_limit : hasText (tenTo digitLimit) = false := by
  rw [Bool.eq_false_iff, ne_eq, hasText_iff, Int.natAbs_natCast]
  exact Nat.lt_irrefl _

theorem digitValue?_lt {c : Char} {d : Nat} (h : digitValue? c = some d) : d < 10 := by
  obtain ⟨z, hz, rfl⟩ := Option.map_eq_some_iff.mp h
  have hrange := List.find?_some hz
  simp only [Bool.and_eq_true, decide_eq_true_eq] at hrange
  omega

/-- A row of digits spells a number below the power of ten that has one digit more. -/
theorem valueOf_lt (s : List Char) : valueOf 10 digitValue? s < tenTo s.length := by
  induction s using List.reverseRecOn with
  | nil => exact tenTo_pos 0
  | append_singleton s c ih =>
    have hdigit : (digitValue? c).getD 0 < 10 := by
      cases hc : digitValue? c with
      | none => decide
      | some d => exact digitValue?_lt hc
    have hstep : valueOf 10 digitValue? (s ++ [c]) =
        10 * valueOf 10 digitValue? s + (digitValue? c).getD 0 := by
      rw [valueOf, List.foldl_append]
      rfl
    rw [hstep, List.length_append, List.length_singleton, tenTo_succ]
    omega

/-- Digits that are not too many spell a number with a text. -/
theorem hasText_valueOf {s : List Char} (h : s.length ≤ digitLimit) :
    hasText (valueOf 10 digitValue? s) = true := by
  rw [hasText_iff, Int.natAbs_natCast]
  exact Nat.lt_of_lt_of_le (valueOf_lt s) (tenTo_le_tenTo h)

theorem not_mem_natText {c : Char} (h : c.isDigit = false) (n : Nat) : c ∉ natText n := by
  intro hc
  rw [isDigit_of_mem_natText hc] at h
  cases h

/-- Only zero begins with the digit zero. -/
theorem head?_natText_ne {n : Nat} (hn : n ≠ 0) : (natText n).head? ≠ some '0' := by
  induction n using Nat.strongRecOn with
  | ind n ih =>
    rcases Nat.lt_or_ge n 10 with hlt | hge
    · have hdigits : ∀ n < 10, n ≠ 0 → (natText n).head? ≠ some '0' := by decide
      exact hdigits n hlt hn
    · rw [natText, Nat.toDigits_of_base_le (by decide) hge,
        List.head?_append_of_ne_nil _ Nat.toDigits_ne_nil]
      exact ih (n / 10) (by omega) (by omega)

theorem isDigit_of_mem_padded {width n : Nat} {c : Char} (h : c ∈ padded width n) :
    c.isDigit = true := by
  rcases List.mem_append.mp h with h | h
  · rw [List.eq_of_mem_replicate h]
    rfl
  · exact isDigit_of_mem_natText h

/-- Whether digits are those of a number without zeros in front that it does not need. -/
structure IsWhole (digits : List Char) : Prop where
  ne_nil : digits ≠ []
  isDigit : ∀ c ∈ digits, c.isDigit = true
  zero : digits.head? = some '0' → digits = ['0']

theorem isWhole_natText (n : Nat) : IsWhole (natText n) where
  ne_nil := natText_ne_nil n
  isDigit _ := isDigit_of_mem_natText
  zero h := by
    obtain rfl : n = 0 := by_contra fun hn => head?_natText_ne hn h
    rfl

theorem intText_ne_nil (n : Int) : intText n ≠ [] := by
  unfold intText
  split
  · exact List.cons_ne_nil _ _
  · exact natText_ne_nil _

theorem intText_natCast (n : Nat) : intText n = natText n := by
  rw [intText, if_neg (by omega), Int.natAbs_natCast]

theorem isBlank_of_mem_intText {n : Int} {c : Char} (h : c ∈ intText n) : isBlank c = false := by
  unfold intText at h
  split at h
  · rcases List.mem_cons.mp h with rfl | h
    · decide
    · exact isBlank_of_isDigit (isDigit_of_mem_natText h)
  · exact isBlank_of_isDigit (isDigit_of_mem_natText h)

/-! ## Signs -/

/-- An optional sign is split off from a text that begins with none. -/
theorem takeSign_append {sign s : List Char} (hsign : sign = ['-'] ∨ sign = ['+'] ∨ sign = [])
    (hs : ∀ c ∈ s.head?, c ≠ '-' ∧ c ≠ '+') : takeSign (sign ++ s) = (sign == ['-'], s) := by
  obtain rfl | rfl | rfl := hsign
  · rfl
  · rfl
  · rw [List.nil_append, takeSign]
    · rfl
    · rintro rest rfl
      exact (hs '-' rfl).1 rfl
    · rintro rest rfl
      exact (hs '+' rfl).2 rfl

theorem isBlank_of_mem_sign {sign : List Char} (hsign : sign = ['-'] ∨ sign = ['+'] ∨ sign = []) :
    ∀ c ∈ sign, isBlank c = false := by
  obtain rfl | rfl | rfl := hsign
  · exact List.forall_mem_singleton.2 (by decide)
  · exact List.forall_mem_singleton.2 (by decide)
  · exact List.forall_mem_nil _

theorem ne_sign_of_isDigit {c : Char} (h : isDigit c = true) : c ≠ '-' ∧ c ≠ '+' := by
  constructor
  · rintro rfl
    exact absurd h (by decide)
  · rintro rfl
    exact absurd h (by decide)

/-! ## Numerals of any form -/

/-- Whether a text spells an integer: an optional sign and rows of decimal digits with single
underscores between them, perhaps with blanks around, and not too many digits in all. -/
def Spells (s : List Char) (n : Int) : Prop :=
  ∃ sign rows, Padded isBlank (sign ++ ['_'].intercalate rows) s ∧
    rows ≠ [] ∧ (∀ row ∈ rows, row ≠ [] ∧ ∀ c ∈ row, isDigit c = true) ∧
    rows.flatten.length ≤ digitLimit ∧
    ((sign = ['-'] ∧ n = -valueOf 10 digitValue? rows.flatten) ∨
      ((sign = ['+'] ∨ sign = []) ∧ n = valueOf 10 digitValue? rows.flatten))

theorem Spells.of_padded {core s : List Char} {n : Int} (h : Spells core n)
    (hs : Padded isBlank core s) : Spells s n := by
  obtain ⟨sign, rows, ⟨before, after, hcore, hb, ha⟩, hspells⟩ := h
  obtain ⟨before', after', rfl, hb', ha'⟩ := hs
  refine ⟨sign, rows, ⟨before' ++ before, after ++ after', by simp [hcore], ?_, ?_⟩, hspells⟩
  · exact List.forall_mem_append.mpr ⟨hb', hb⟩
  · exact List.forall_mem_append.mpr ⟨ha, ha'⟩

theorem intercalate_cons_cons (c : Char) (row : List Char) (rows : List (List Char)) :
    ['_'].intercalate ((c :: row) :: rows) = c :: ['_'].intercalate (row :: rows) := by
  cases rows <;> simp [List.intercalate]

/-- Digits that are joined stood in rows with single underscores between them. The first row is empty
only if the text is, or if it goes on after a digit. -/
theorem exists_rows_of_joinDigits? {s digits : List Char} {after : Bool}
    (h : joinDigits? after s = some digits) :
    ∃ row rows, s = ['_'].intercalate (row :: rows) ∧ (row :: rows).flatten = digits ∧
      (∀ r ∈ rows, r ≠ []) ∧ (after = false → s ≠ [] → row ≠ []) := by
  induction s generalizing after digits with
  | nil =>
    cases h
    exact ⟨[], [], by simp⟩
  | cons c rest ih =>
    by_cases hc : c = '_'
    · subst hc
      cases rest with
      | nil => cases h
      | cons d tail =>
        simp only [joinDigits?] at h
        split at h
        · next hafter =>
          -- a new row begins
          obtain ⟨row, rows, hs, hflat, hrows, hrow⟩ := ih h
          refine ⟨[], row :: rows, ?_, by simpa using hflat, ?_, ?_⟩
          · rw [hs]
            simp [List.intercalate]
          · exact List.forall_mem_cons.mpr ⟨hrow rfl (List.cons_ne_nil d tail), hrows⟩
          · intro hfalse
            rw [hfalse] at hafter
            cases hafter
        · cases h
    · rw [joinDigits?] at h
      · obtain ⟨digits', h', rfl⟩ := Option.map_eq_some_iff.mp h
        obtain ⟨row, rows, hs, hflat, hrows, -⟩ := ih h'
        exact ⟨c :: row, rows, by rw [intercalate_cons_cons, ← hs], by simp [← hflat], hrows,
          fun _ _ => List.cons_ne_nil c row⟩
      · exact hc

/-- A sign, if there is one, stands before what is left. -/
theorem exists_eq_of_takeSign {s digits : List Char} {negative : Bool}
    (h : takeSign s = (negative, digits)) :
    ∃ sign, s = sign ++ digits ∧ (if negative then sign = ['-'] else sign = ['+'] ∨ sign = []) := by
  unfold takeSign at h
  split at h
  · cases h
    exact ⟨['-'], rfl, rfl⟩
  · cases h
    exact ⟨['+'], rfl, Or.inl rfl⟩
  · cases h
    exact ⟨[], rfl, Or.inr rfl⟩

/-- **What is read of a text is what it spells.** -/
theorem spells_of_readInt? {s : List Char} {n : Int} (h : readInt? s = some n) : Spells s n := by
  rcases hsign : takeSign (trimBy isNumeralBlank s) with ⟨negative, text⟩
  obtain ⟨sign, htrim, hsigns⟩ := exists_eq_of_takeSign hsign
  simp only [readInt?, numeral?, hsign, Option.bind_eq_bind, Option.bind_eq_some_iff] at h
  obtain ⟨⟨negative', digits'⟩, ⟨digits, hjoin, hnumeral⟩, h⟩ := h
  split at hnumeral
  · cases hnumeral
  next hgood =>
  obtain ⟨rfl, rfl⟩ := Prod.mk.inj (Option.some.inj hnumeral)
  split at h
  · cases h
  · next hlimit =>
    simp only [Bool.or_eq_true, List.isEmpty_iff, Bool.not_eq_true', not_or, Bool.not_eq_false,
      List.all_eq_true] at hgood
    obtain ⟨row, rows, htext, hflat, hrows, hrow⟩ := exists_rows_of_joinDigits? hjoin
    have hrow : row ≠ [] := hrow rfl fun he => by
      rw [he] at hjoin
      exact hgood.1 (Option.some.inj hjoin).symm
    refine ⟨sign, row :: rows, ?_, List.cons_ne_nil row rows, ?_, ?_, ?_⟩
    · rw [← htext, ← htrim]
      exact (padded_trimBy isNumeralBlank s).imp fun _ => isBlank_of_isNumeralBlank
    · intro r hr
      refine ⟨?_, fun c hc => hgood.2 c (hflat ▸ List.mem_flatten_of_mem hr hc)⟩
      rcases List.mem_cons.mp hr with rfl | hr
      · exact hrow
      · exact hrows r hr
    · rw [hflat]
      exact Nat.le_of_not_lt hlimit
    · rw [hflat, ← Option.some.inj h]
      cases negative with
      | true => exact Or.inl ⟨hsigns, rfl⟩
      | false => exact Or.inr ⟨hsigns, rfl⟩

/-- What is read of a text has a text. -/
theorem hasText_of_readInt? {s : List Char} {n : Int} (h : readInt? s = some n) :
    hasText n = true := by
  obtain ⟨sign, rows, -, -, -, hlimit, hvalue⟩ := spells_of_readInt? h
  rcases hvalue with ⟨-, rfl⟩ | ⟨-, rfl⟩
  · rw [hasText_neg]
    exact hasText_valueOf hlimit
  · exact hasText_valueOf hlimit

/-! ## Every numeral is read -/

/-- No digit of any script is blank. -/
theorem isBlank_of_decimal {c : Char} (h : isDigit c = true) : isBlank c = false := by
  have hapart : ∀ z ∈ digitZeros, ∀ r ∈ blankRanges, r.2 < z ∨ z + 9 < r.1 := by decide
  obtain ⟨z, hz, hlow, hhigh⟩ : ∃ z ∈ digitZeros, z ≤ c.toNat ∧ c.toNat ≤ z + 9 := by
    simpa [isDigit, digitValue?] using h
  rw [isBlank, Ranges.holds, List.any_eq_false]
  intro r hr hin
  simp only [Bool.and_eq_true, decide_eq_true_eq] at hin
  rcases hapart z hz r hr with hbelow | habove
  · omega
  · omega

/-- A row of digits is joined with what follows a digit. -/
theorem joinDigits?_append {row : List Char} (h : ∀ c ∈ row, isDigit c = true) (hne : row ≠ [])
    (after : Bool) (rest : List Char) :
    joinDigits? after (row ++ rest) = (joinDigits? true rest).map (row ++ ·) := by
  induction row generalizing after with
  | nil => exact absurd rfl hne
  | cons c row ih =>
    obtain ⟨hc, hrow⟩ := List.forall_mem_cons.mp h
    have hscore : c ≠ '_' := by
      rintro rfl
      exact absurd hc (by decide)
    have hstep : joinDigits? after (c :: (row ++ rest)) =
        (joinDigits? true (row ++ rest)).map (c :: ·) := by
      rw [joinDigits?, hc]
      exact hscore
    rw [List.cons_append, hstep]
    cases row with
    | nil => rfl
    | cons d row =>
      rw [ih hrow (List.cons_ne_nil d row), Option.map_map]
      rfl

/-- Rows of digits with single underscores between them are joined. -/
theorem joinDigits?_intercalate {rows : List (List Char)} (hne : rows ≠ [])
    (h : ∀ row ∈ rows, row ≠ [] ∧ ∀ c ∈ row, isDigit c = true) (after : Bool) :
    joinDigits? after (['_'].intercalate rows) = some rows.flatten := by
  induction rows generalizing after with
  | nil => exact absurd rfl hne
  | cons row rows ih =>
    obtain ⟨⟨hrow, hdigits⟩, hrows⟩ := List.forall_mem_cons.mp h
    cases rows with
    | nil =>
      have hlast := joinDigits?_append hdigits hrow after []
      simpa [List.intercalate, joinDigits?] using hlast
    | cons next rows =>
      have hlater := ih (List.cons_ne_nil next rows) hrows false
      obtain ⟨d, tail, hnext⟩ := List.exists_cons_of_ne_nil (hrows next List.mem_cons_self).1
      have hd : isDigit d = true := (hrows next List.mem_cons_self).2 d (by simp [hnext])
      have hsplit : ['_'].intercalate (row :: next :: rows) =
          row ++ '_' :: ['_'].intercalate (next :: rows) := by simp [List.intercalate]
      have hscore : joinDigits? true ('_' :: ['_'].intercalate (next :: rows)) =
          joinDigits? false (['_'].intercalate (next :: rows)) := by
        rw [hnext, intercalate_cons_cons, joinDigits?, hd]
        rfl
      rw [hsplit, joinDigits?_append hdigits hrow, hscore, hlater, List.flatten_cons]
      rfl

/-- Between rows there is nothing but underscores. -/
theorem eq_or_mem_of_mem_intercalate {rows : List (List Char)} {c : Char}
    (h : c ∈ ['_'].intercalate rows) : c = '_' ∨ ∃ row ∈ rows, c ∈ row := by
  induction rows with
  | nil => cases h
  | cons row rows ih =>
    cases rows with
    | nil => exact Or.inr ⟨row, List.mem_cons_self, by simpa [List.intercalate] using h⟩
    | cons next rows =>
      rw [List.intercalate_cons_cons, List.append_assoc] at h
      rcases List.mem_append.mp h with hrow | hrest
      · exact Or.inr ⟨row, List.mem_cons_self, hrow⟩
      rcases List.mem_cons.mp hrest with rfl | hrest
      · exact Or.inl rfl
      · rcases ih hrest with rfl | ⟨r, hr, hc⟩
        · exact Or.inl rfl
        · exact Or.inr ⟨r, List.mem_cons_of_mem row hr, hc⟩

/-- What stands in rows of digits with single underscores between them is not blank. -/
theorem isBlank_of_mem_rows {rows : List (List Char)}
    (hrows : ∀ row ∈ rows, row ≠ [] ∧ ∀ c ∈ row, isDigit c = true) :
    ∀ c ∈ ['_'].intercalate rows, isBlank c = false := by
  intro c hc
  rcases eq_or_mem_of_mem_intercalate hc with rfl | ⟨row, hrow, hc⟩
  · decide
  · exact isBlank_of_decimal ((hrows row hrow).2 c hc)

/-- Rows of digits begin with a digit. -/
theorem isDigit_of_mem_head?_rows {rows : List (List Char)}
    (hrows : ∀ row ∈ rows, row ≠ [] ∧ ∀ c ∈ row, isDigit c = true) :
    ∀ c ∈ (['_'].intercalate rows).head?, isDigit c = true := by
  cases rows with
  | nil => exact fun _ hc => nomatch hc
  | cons row rest =>
    obtain ⟨hrow, hdigits⟩ := hrows row List.mem_cons_self
    obtain ⟨d, tail, rfl⟩ := List.exists_cons_of_ne_nil hrow
    rw [intercalate_cons_cons]
    rintro c ⟨⟩
    exact hdigits d List.mem_cons_self

/-- A sign and rows of digits are a numeral of the digits without what is between the rows. -/
theorem numeral?_rows {sign : List Char} {rows : List (List Char)}
    (hsign : sign = ['-'] ∨ sign = ['+'] ∨ sign = []) (hne : rows ≠ [])
    (hrows : ∀ row ∈ rows, row ≠ [] ∧ ∀ c ∈ row, isDigit c = true) :
    numeral? (sign ++ ['_'].intercalate rows) = some (sign == ['-'], rows.flatten) := by
  have hself : trimBy isNumeralBlank (sign ++ ['_'].intercalate rows) =
      sign ++ ['_'].intercalate rows :=
    trimBy_eq_self fun c hc => isNumeralBlank_eq_false
      (List.forall_mem_append.mpr ⟨isBlank_of_mem_sign hsign, isBlank_of_mem_rows hrows⟩ c hc)
  have htake := takeSign_append hsign fun c hc =>
    ne_sign_of_isDigit (isDigit_of_mem_head?_rows hrows c hc)
  have hdigits : ∀ c ∈ rows.flatten, isDigit c = true := by
    intro c hc
    obtain ⟨row, hrow, hcrow⟩ := List.mem_flatten.mp hc
    exact (hrows row hrow).2 c hcrow
  have hnonempty : rows.flatten ≠ [] := by
    obtain ⟨row, rest, rfl⟩ := List.exists_cons_of_ne_nil hne
    simp [(hrows row List.mem_cons_self).1]
  have hgood : (rows.flatten.isEmpty || !rows.flatten.all isDigit) = false := by
    rw [List.all_eq_true.mpr hdigits, List.isEmpty_eq_false_iff.mpr hnonempty]
    rfl
  rw [numeral?, hself, htake]
  simp only [joinDigits?_intercalate hne hrows false, hgood, Option.bind_eq_bind, Option.bind_some,
    Bool.false_eq_true, if_false]

/-- Rows of digits that are not too many are read as what they spell. -/
theorem readInt?_rows {sign : List Char} {rows : List (List Char)}
    (hsign : sign = ['-'] ∨ sign = ['+'] ∨ sign = []) (hne : rows ≠ [])
    (hrows : ∀ row ∈ rows, row ≠ [] ∧ ∀ c ∈ row, isDigit c = true)
    (hlimit : rows.flatten.length ≤ digitLimit) :
    readInt? (sign ++ ['_'].intercalate rows) =
      some (if sign = ['-'] then -(valueOf 10 digitValue? rows.flatten : Int)
        else valueOf 10 digitValue? rows.flatten) := by
  rw [readInt?, numeral?_rows hsign hne hrows, Option.bind_eq_bind, Option.bind_some]
  simp only [if_neg (Nat.not_lt.mpr hlimit), beq_iff_eq]

/-- Rows of too many digits are not read. -/
theorem readInt?_rows_of_limit_lt {sign : List Char} {rows : List (List Char)}
    (hsign : sign = ['-'] ∨ sign = ['+'] ∨ sign = []) (hne : rows ≠ [])
    (hrows : ∀ row ∈ rows, row ≠ [] ∧ ∀ c ∈ row, isDigit c = true)
    (hlimit : digitLimit < rows.flatten.length) :
    readInt? (sign ++ ['_'].intercalate rows) = none := by
  rw [readInt?, numeral?_rows hsign hne hrows, Option.bind_eq_bind, Option.bind_some]
  exact if_pos hlimit

/-- A sign and digits that are not too many are read as what they spell. -/
theorem readInt?_digits {sign digits : List Char} (hsign : sign = ['-'] ∨ sign = ['+'] ∨ sign = [])
    (hne : digits ≠ []) (hdigits : ∀ c ∈ digits, c.isDigit = true)
    (hlimit : digits.length ≤ digitLimit) :
    readInt? (sign ++ digits) =
      some (if sign = ['-'] then -(valueOf 10 digitValue? digits : Int)
        else valueOf 10 digitValue? digits) := by
  have hrow : ∀ row ∈ [digits], row ≠ [] ∧ ∀ c ∈ row, isDigit c = true :=
    List.forall_mem_singleton.2 ⟨hne, fun c hc => isDigit_of_ascii (hdigits c hc)⟩
  simpa using readInt?_rows hsign (List.cons_ne_nil digits []) hrow (by simpa using hlimit)

/-- **A written integer is read back**, if it has a text. -/
theorem readInt?_intText {n : Int} (h : hasText n = true) : readInt? (intText n) = some n := by
  have hlimit : (natText n.natAbs).length ≤ digitLimit := of_decide_eq_true h
  have hread (sign) (hsign : sign = ['-'] ∨ sign = ['+'] ∨ sign = []) :=
    readInt?_digits hsign (natText_ne_nil n.natAbs) (fun _ => isDigit_of_mem_natText) hlimit
  rw [intText]
  split
  · next hn =>
    have hneg := hread ['-'] (.inl rfl)
    rw [if_pos rfl, valueOf_natText] at hneg
    rw [← List.singleton_append, hneg]
    congr 1
    omega
  · next hn =>
    have hpos := hread [] (.inr (.inr rfl))
    rw [if_neg (List.cons_ne_nil _ _).symm, valueOf_natText] at hpos
    rw [← List.nil_append (natText n.natAbs), hpos]
    congr 1
    omega

/-- An integer with too many digits is not read from them. -/
theorem readInt?_intText_of_long {n : Int} (h : hasText n = false) : readInt? (intText n) = none := by
  have hlimit : digitLimit < (natText n.natAbs).length := Nat.lt_of_not_le (of_decide_eq_false h)
  have hrow : ∀ row ∈ [natText n.natAbs], row ≠ [] ∧ ∀ c ∈ row, isDigit c = true :=
    List.forall_mem_singleton.2
      ⟨natText_ne_nil _, fun c hc => isDigit_of_ascii (isDigit_of_mem_natText hc)⟩
  have hread (sign) (hsign : sign = ['-'] ∨ sign = ['+'] ∨ sign = []) :=
    readInt?_rows_of_limit_lt hsign (List.cons_ne_nil _ []) hrow (by simpa using hlimit)
  rw [intText]
  split
  · simpa using hread ['-'] (.inl rfl)
  · simpa using hread [] (.inr (.inr rfl))

/-- **Every numeral is read**, whatever blanks are around it. -/
theorem readInt?_of_spells {s : List Char} {n : Int} (h : Spells s n) :
    readInt? (trim s) = some n := by
  obtain ⟨sign, rows, hpad, hne, hrows, hlimit, hvalue⟩ := h
  have hsign : sign = ['-'] ∨ sign = ['+'] ∨ sign = [] := hvalue.imp And.left And.left
  have hblank : ∀ c ∈ sign ++ ['_'].intercalate rows, isBlank c = false :=
    List.forall_mem_append.mpr ⟨isBlank_of_mem_sign hsign, isBlank_of_mem_rows hrows⟩
  rw [trim, hpad.trimBy_eq hblank, readInt?_rows hsign hne hrows hlimit]
  rcases hvalue with ⟨rfl, rfl⟩ | ⟨rfl | rfl, rfl⟩ <;> rfl

/-- **A text is read exactly if it spells an integer**, and as the one that it spells. -/
theorem readInt?_trim_iff {s : List Char} {n : Int} :
    readInt? (trim s) = some n ↔ Spells s n := by
  constructor
  · intro h
    exact (spells_of_readInt? h).of_padded (padded_trimBy isBlank s)
  · exact readInt?_of_spells

end MovePlan.Text
