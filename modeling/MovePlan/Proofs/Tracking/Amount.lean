import MovePlan.Proofs.Text.Word
import MovePlan.Proofs.Tracking.Balances

/-!
# Amounts are exact

The text of an amount is a sign where it is needed, the whole part, and as many digits after a point as
there are decimals (`isAmountText_exactAmount`). Nothing is lost in it: the digits without the point are
those of the amount itself (`spellsAmount_exactAmount`), so that for given decimals the text determines
the amount. The text of a delta is that of its change, with a plus sign where there is no minus.

An amount has such a text unless one of its two parts has too many digits (`formatAmount_of_natCast`).
The digits of both parts together may still be too many to be read as one integer.
-/

namespace MovePlan.Tracking

open Numeric Text

/-! ## Digits -/

/-- Zeros in front do not change the value. -/
theorem valueOf_padded (width n : Nat) : valueOf 10 digitValue? (padded width n) = n := by
  rw [padded, valueOf_replicate_append (by decide), valueOf_natText]

/-- A number with no more digits than wanted has as many as wanted. -/
theorem length_padded {width n : Nat} (hwidth : width ≠ 0) (h : n < tenTo width) :
    (padded width n).length = width := by
  have hlength : (natText n).length ≤ width :=
    (Nat.length_toDigits_le_iff (by decide) (Nat.pos_of_ne_zero hwidth)).mpr h
  rw [padded, List.length_append, List.length_replicate]
  omega

/-- Digits behind others count from the lowest place on. -/
theorem valueOf_append_digits {s t : List Char} (hs : ∀ c ∈ s, c.isDigit = true)
    (ht : ∀ c ∈ t, c.isDigit = true) :
    valueOf 10 digitValue? (s ++ t) =
      tenTo t.length * valueOf 10 digitValue? s + valueOf 10 digitValue? t := by
  rw [valueOf_eq_ofDigitChars (List.forall_mem_append.mpr ⟨hs, ht⟩), valueOf_eq_ofDigitChars hs,
    valueOf_eq_ofDigitChars ht, Nat.ofDigitChars_append, Nat.ofDigitChars_eq_ofDigitChars_zero]
  rfl

/-! ## Amounts -/

/-- Whether a text has the form of an amount with decimals: a minus sign exactly if the amount is
negative, the whole part, and where there are decimals a point and as many digits. -/
def IsAmountText (raw : Int) (decimals : Nat) (text : List Char) : Prop :=
  ∃ sign whole fraction, text = sign ++ whole ++ fraction ∧
    sign = (if raw < 0 then ['-'] else []) ∧ IsWhole whole ∧
    if decimals = 0 then fraction = []
    else ∃ digits, fraction = '.' :: digits ∧ digits.length = decimals ∧
      ∀ c ∈ digits, c.isDigit = true

variable (raw : Int) (decimals : Nat)

/-- The digits with their point are an amount in the declared form. -/
theorem isAmountText_exactAmount : IsAmountText raw decimals (exactAmount raw decimals) := by
  refine ⟨_, natText (raw.natAbs / tenTo decimals),
    if decimals = 0 then [] else '.' :: padded decimals (raw.natAbs % tenTo decimals), ?_, rfl,
    isWhole_natText _, ?_⟩
  · by_cases hd : decimals = 0 <;> simp [exactAmount, hd]
  · by_cases hd : decimals = 0
    · simp [hd]
    · rw [if_neg hd, if_neg hd]
      exact ⟨_, rfl, length_padded hd (Nat.mod_lt _ (tenTo_pos decimals)),
        fun _ => isDigit_of_mem_padded⟩

/-- The digits of an amount without the point, with their sign in front. -/
def amountDigits : List Char :=
  natText (raw.natAbs / tenTo decimals) ++
    if decimals = 0 then [] else padded decimals (raw.natAbs % tenTo decimals)

theorem isDigit_of_mem_amountDigits {c : Char} (h : c ∈ amountDigits raw decimals) :
    c.isDigit = true := by
  rcases List.mem_append.mp h with h | h
  · exact isDigit_of_mem_natText h
  · split at h
    · cases h
    · exact isDigit_of_mem_padded h

/-- All digits together are the amount without its sign. -/
theorem valueOf_amountDigits : valueOf 10 digitValue? (amountDigits raw decimals) = raw.natAbs := by
  by_cases hd : decimals = 0
  · subst hd
    simp [amountDigits, valueOf_natText, tenTo]
  · have hlength := length_padded hd (Nat.mod_lt raw.natAbs (tenTo_pos decimals))
    rw [amountDigits, if_neg hd, valueOf_append_digits (fun _ => isDigit_of_mem_natText)
      (fun _ => isDigit_of_mem_padded), hlength, valueOf_natText, valueOf_padded]
    exact Nat.div_add_mod raw.natAbs (tenTo decimals)

/-- Without the point, the text is the sign and the digits. -/
theorem filter_exactAmount : (exactAmount raw decimals).filter (· != '.') =
    (if raw < 0 then ['-'] else []) ++ amountDigits raw decimals := by
  have hpoint : ∀ {c : Char}, c.isDigit = true → (c != '.') = true := by
    intro c hc
    refine bne_iff_ne.mpr fun he => ?_
    rw [he] at hc
    cases hc
  have hkeep : ∀ {s : List Char}, (∀ c ∈ s, c.isDigit = true) → s.filter (· != '.') = s :=
    fun h => List.filter_eq_self.mpr fun c hc => hpoint (h c hc)
  have hsign : (if raw < 0 then ['-'] else []).filter (· != '.') = if raw < 0 then ['-'] else [] := by
    split <;> rfl
  have hwhole := hkeep (s := natText (raw.natAbs / tenTo decimals)) fun _ => isDigit_of_mem_natText
  by_cases hd : decimals = 0
  · simp [exactAmount, amountDigits, hd, hsign, hd ▸ hwhole]
  · have hfraction := hkeep (s := padded decimals (raw.natAbs % tenTo decimals))
      fun _ => isDigit_of_mem_padded
    simp [exactAmount, amountDigits, hd, hsign, hwhole, hfraction]

/-- Whether a text spells an amount when its point is left out: a minus sign exactly if the amount is
negative, and digits of its magnitude. They are read as the amount unless there are too many of them. -/
def SpellsAmount (text : List Char) : Prop :=
  ∃ digits, text.filter (· != '.') = (if raw < 0 then ['-'] else []) ++ digits ∧
    (∀ c ∈ digits, c.isDigit = true) ∧ valueOf 10 digitValue? digits = raw.natAbs ∧
    (digits.length ≤ digitLimit → readInt? (text.filter (· != '.')) = some raw)

/-- **Without its point the text of an amount is that of the integer.** -/
theorem spellsAmount_exactAmount : SpellsAmount raw (exactAmount raw decimals) := by
  have hdigits : ∀ c ∈ amountDigits raw decimals, c.isDigit = true :=
    fun _ => isDigit_of_mem_amountDigits raw decimals
  refine ⟨_, filter_exactAmount raw decimals, hdigits, valueOf_amountDigits raw decimals, fun hlimit => ?_⟩
  have hne : amountDigits raw decimals ≠ [] := by simp [amountDigits, natText_ne_nil]
  have hsign : (if raw < 0 then ['-'] else []) = ['-'] ∨ (if raw < 0 then ['-'] else []) = ['+'] ∨
      (if raw < 0 then ['-'] else []) = [] := by
    split
    · exact .inl rfl
    · exact .inr (.inr rfl)
  rw [filter_exactAmount, readInt?_digits hsign hne hdigits hlimit, valueOf_amountDigits]
  by_cases hn : raw < 0
  · rw [if_pos hn, if_pos rfl, Option.some.injEq]
    omega
  · rw [if_neg hn, if_neg (List.cons_ne_nil '-' []).symm, Option.some.injEq]
    omega

variable {raw decimals}

/-- A text spells one amount only: the sign tells whether it is negative, the digits its magnitude. -/
theorem SpellsAmount.unique {other : Int} {text : List Char} (h : SpellsAmount raw text)
    (hother : SpellsAmount other text) : other = raw := by
  obtain ⟨digits, htext, hdigits, hvalue, -⟩ := h
  obtain ⟨digits', htext', hdigits', hvalue', -⟩ := hother
  have hminus : ∀ {s : List Char}, (∀ c ∈ s, c.isDigit = true) → ∀ t, s ≠ '-' :: t := by
    intro s hs t he
    have hbad := hs '-' (he ▸ List.mem_cons_self)
    cases hbad
  rw [htext] at htext'
  by_cases hn : raw < 0 <;> by_cases hn' : other < 0
  · simp only [if_pos hn, if_pos hn', List.append_cancel_left_eq] at htext'
    subst htext'
    omega
  · simp only [if_pos hn, if_neg hn', List.nil_append, List.cons_append] at htext'
    exact absurd htext'.symm (hminus hdigits' _)
  · simp only [if_neg hn, if_pos hn', List.nil_append, List.cons_append] at htext'
    exact absurd htext' (hminus hdigits _)
  · simp only [if_neg hn, if_neg hn', List.nil_append] at htext'
    subst htext'
    omega

/-! ## Which amounts have a text -/

/-- Whether both parts of an amount have few enough digits: the whole part and, where there are
decimals, the rest. -/
def IsShort (raw : Int) (decimals : Nat) : Prop :=
  raw.natAbs / tenTo decimals < tenTo digitLimit ∧
    (decimals = 0 ∨ raw.natAbs % tenTo decimals < tenTo digitLimit)

/-- Both parts of an amount have a text exactly if the amount is short. -/
theorem hasAmountText_iff : hasAmountText raw decimals = true ↔ IsShort raw decimals := by
  simp only [hasAmountText, IsShort, Bool.and_eq_true, Bool.or_eq_true, beq_iff_eq, hasText_iff,
    Int.natAbs_natCast]

/-- An amount below the limit has a text with any number of decimals. -/
theorem IsShort.of_hasText (h : hasText raw = true) (decimals : Nat) : IsShort raw decimals := by
  have hraw := hasText_iff.1 h
  exact ⟨(Nat.div_le_self _ _).trans_lt hraw, .inr ((Nat.mod_le _ _).trans_lt hraw)⟩

/-- Without decimals the whole amount is the whole part. -/
theorem isShort_zero_iff : IsShort raw 0 ↔ hasText raw = true := by
  have hone : tenTo 0 = 1 := rfl
  simp only [IsShort, hone, Nat.div_one, true_or, and_true, hasText_iff]

/-- The power of ten with one digit too many is not short. -/
theorem not_isShort_limit : ¬ IsShort (tenTo digitLimit) 0 := by
  rw [isShort_zero_iff, hasText_limit]
  exact Bool.false_ne_true

/-- With decimals that are not negative, the two parts are all that can be refused. -/
theorem formatAmount_of_natCast : formatAmount raw decimals =
    if hasAmountText raw decimals then .ok (exactAmount raw decimals) else .error .tooManyDigits := by
  rw [formatAmount, if_neg (by omega), Int.toNat_natCast]

theorem formatAmount_of_isShort (h : IsShort raw decimals) :
    formatAmount raw decimals = .ok (exactAmount raw decimals) := by
  rw [formatAmount_of_natCast, if_pos (hasAmountText_iff.2 h)]

theorem formatAmount_of_not_isShort (h : ¬ IsShort raw decimals) :
    formatAmount raw decimals = .error .tooManyDigits := by
  rw [formatAmount_of_natCast, if_neg (mt hasAmountText_iff.1 h)]

theorem eq_exactAmount {text : List Char} (h : formatAmount raw decimals = .ok text) :
    text = exactAmount raw decimals := by
  rw [formatAmount_of_natCast] at h
  split at h
  · exact (Except.ok.inj h).symm
  · cases h

/-! ## Deltas -/

/-- The text of a delta is that of its change with the token's decimals, with a plus sign in front
exactly if the change is not negative. -/
def Delta.ShowsChange (d : Delta) : Prop :=
  ∃ text, formatAmount d.change d.token.decimals = .ok text ∧
    d.text.toList = (if 0 ≤ d.change then ['+'] else []) ++ text

/-- A change that is shown is the difference of the two balances. -/
theorem showsChange_of_deltaOf {before after : Balances} {t : Token} {d : Delta}
    (h : deltaOf before after t = .ok d) : d.ShowsChange := by
  obtain ⟨text, htext, h⟩ := Error.bind_eq_ok_iff.1 h
  obtain ⟨amount, hamount, htext⟩ := Error.bind_eq_ok_iff.1 htext
  obtain rfl := Except.ok.inj h
  obtain rfl := Except.ok.inj htext
  refine ⟨amount, hamount, ?_⟩
  rw [String.toList_ofList]
  split <;> rfl

theorem showsChange_of_deltasOf {before after : Balances} {tokens : List Token} {ds : List Delta}
    (h : deltasOf before after tokens = .ok ds) : ∀ d ∈ ds, d.ShowsChange := by
  induction tokens generalizing ds with
  | nil =>
    obtain rfl := Except.ok.inj h
    exact fun _ hd => nomatch hd
  | cons t rest ih =>
    obtain ⟨d, later, rfl, hd, hlater⟩ := deltasOf_cons_eq_ok h
    exact List.forall_mem_cons.mpr ⟨showsChange_of_deltaOf hd, ih hlater⟩

/-- The change of a token's balance, which is unchanged if there is none afterwards. -/
def changeOf (before after : Balances) (t : Token) : Int :=
  let b := (before.get? t.metadata).getD 0
  (after.get? t.metadata).getD b - b

/-- Whether the change of a token's balance has a text. -/
def HasShortChange (before after : Balances) (t : Token) : Prop :=
  IsShort (changeOf before after t) t.decimals.toNat

section

variable {before after : Balances}

/-- A short change is always shown. -/
theorem exists_deltaOf {t : Token} (h : 0 ≤ t.decimals) (hshort : HasShortChange before after t) :
    ∃ d, deltaOf before after t = .ok d := by
  have htext := formatAmount_of_isShort hshort
  rw [Int.toNat_of_nonneg h] at htext
  exact ⟨_, Error.bind_eq_ok_iff.2 ⟨_, Error.bind_eq_ok_iff.2 ⟨_, htext, rfl⟩, rfl⟩⟩

/-- A long change is never shown. -/
theorem deltaOf_of_not_hasShortChange {t : Token} (h : 0 ≤ t.decimals)
    (hlong : ¬ HasShortChange before after t) : deltaOf before after t = .error .tooManyDigits := by
  have htext := formatAmount_of_not_isShort hlong
  rw [Int.toNat_of_nonneg h] at htext
  exact Error.bind_eq_error_iff.2 (.inl (Error.bind_eq_error_iff.2 (.inl htext)))

/-- Where no token has a negative number of decimals and every change has a text, there are
deltas. -/
theorem exists_deltasOf {tokens : List Token} (h : ∀ t ∈ tokens, 0 ≤ t.decimals)
    (hshort : ∀ t ∈ tokens, HasShortChange before after t) :
    ∃ ds, deltasOf before after tokens = .ok ds := by
  induction tokens with
  | nil => exact ⟨[], rfl⟩
  | cons t rest ih =>
    obtain ⟨ht, hrest⟩ := List.forall_mem_cons.mp h
    obtain ⟨hchange, hchanges⟩ := List.forall_mem_cons.mp hshort
    obtain ⟨d, hd⟩ := exists_deltaOf ht hchange
    obtain ⟨later, hlater⟩ := ih hrest hchanges
    exact ⟨d :: later, Error.bind_eq_ok_iff.2 ⟨d, hd, Error.bind_eq_ok_iff.2 ⟨later, hlater, rfl⟩⟩⟩

/-- A change without a text is the only thing that can go wrong. -/
theorem deltasOf_of_not_hasShortChange {tokens : List Token} (h : ∀ t ∈ tokens, 0 ≤ t.decimals)
    (hlong : ∃ t ∈ tokens, ¬ HasShortChange before after t) :
    deltasOf before after tokens = .error .tooManyDigits := by
  induction tokens with
  | nil =>
    obtain ⟨t, ht, -⟩ := hlong
    cases ht
  | cons t rest ih =>
    obtain ⟨ht, hrest⟩ := List.forall_mem_cons.mp h
    by_cases hchange : HasShortChange before after t
    · obtain ⟨d, hd⟩ := exists_deltaOf ht hchange
      obtain ⟨u, hu, hlong⟩ := hlong
      rcases List.mem_cons.1 hu with rfl | hu
      · exact absurd hchange hlong
      · exact Error.bind_eq_error_iff.2
          (.inr ⟨d, hd, Error.bind_eq_error_iff.2 (.inl (ih hrest ⟨u, hu, hlong⟩))⟩)
    · exact Error.bind_eq_error_iff.2 (.inl (deltaOf_of_not_hasShortChange ht hchange))

end

/-- **Amounts are shown exactly**, unless there are too many digits. An amount whose whole part and
rest have few enough digits has a text, which has the form of an amount, spells the integer when its
point is left out, and is that of no other amount with as many decimals; any other amount has none. Tokens
that have such a number of decimals have deltas exactly if every change has a text, and the text of
every delta is that of its change. -/
theorem amounts_exact :
    (∀ (raw : Int) (decimals : Nat), IsShort raw decimals →
      ∃ text, formatAmount raw decimals = .ok text ∧ IsAmountText raw decimals text ∧
        SpellsAmount raw text ∧ ∀ other : Int, formatAmount other decimals = .ok text → other = raw) ∧
    (∀ (raw : Int) (decimals : Nat), ¬ IsShort raw decimals →
      formatAmount raw decimals = .error .tooManyDigits) ∧
    (∀ (before after : Balances) (tokens : List Token), (∀ t ∈ tokens, 0 ≤ t.decimals) →
      ((∀ t ∈ tokens, HasShortChange before after t) →
        ∃ ds, deltasOf before after tokens = .ok ds ∧ ds.map Delta.token = tokens) ∧
      ((∃ t ∈ tokens, ¬ HasShortChange before after t) →
        deltasOf before after tokens = .error .tooManyDigits)) ∧
    ∀ (before after : Balances) (tokens : List Token) (ds : List Delta),
      deltasOf before after tokens = .ok ds → ∀ d ∈ ds, d.ShowsChange := by
  refine ⟨?_, fun _ _ => formatAmount_of_not_isShort, ?_, fun _ _ _ _ => showsChange_of_deltasOf⟩
  · intro raw decimals hshort
    refine ⟨exactAmount raw decimals, formatAmount_of_isShort hshort,
      isAmountText_exactAmount raw decimals, spellsAmount_exactAmount raw decimals, fun other hother => ?_⟩
    have hspells := spellsAmount_exactAmount other decimals
    rw [← eq_exactAmount hother] at hspells
    exact (spellsAmount_exactAmount raw decimals).unique hspells
  · intro before after tokens hdecimals
    refine ⟨fun hshort => ?_, deltasOf_of_not_hasShortChange hdecimals⟩
    obtain ⟨ds, hds⟩ := exists_deltasOf hdecimals hshort
    exact ⟨ds, hds, tokens_of_deltasOf hds⟩

/-- The last of the smallest units that goes away, and an amount that no machine integer holds. -/
theorem amounts_exact_dust :
    (∃ ds, deltasOf [("0xa", 1)] [("0xa", 0), ("0xc1", 20000000000000000001)]
        [⟨"APT", "0xa", 8⟩, ⟨"USDC", "0xc1", 6⟩] = .ok ds ∧
      ds.map Delta.text = ["-0.00000001", "+20000000000000.000001"] ∧
      ∀ d ∈ ds, d.ShowsChange) ∧
    ∃ text, formatAmount (-1) 8 = .ok text ∧ IsAmountText (-1) 8 text := by
  have h : deltasOf [("0xa", 1)] [("0xa", 0), ("0xc1", 20000000000000000001)]
      [⟨"APT", "0xa", 8⟩, ⟨"USDC", "0xc1", 6⟩] =
      .ok [⟨⟨"APT", "0xa", 8⟩, 1, 0, -1, "-0.00000001"⟩,
        ⟨⟨"USDC", "0xc1", 6⟩, 0, 20000000000000000001, 20000000000000000001,
          "+20000000000000.000001"⟩] := rfl
  have hone : hasText (-1) = true := by decide
  obtain ⟨text, htext, hform, -⟩ := amounts_exact.1 (-1) 8 (.of_hasText hone 8)
  exact ⟨⟨_, h, rfl, amounts_exact.2.2.2 _ _ _ _ h⟩, text, htext, hform⟩

/-- The least amount with too many digits for a text: without decimals it has none. -/
theorem formatAmount_tooManyDigits :
    ¬ ∀ (raw : Int) (decimals : Nat), ∃ text, formatAmount raw decimals = .ok text := by
  intro h
  obtain ⟨text, htext⟩ := h (tenTo digitLimit) 0
  rw [formatAmount_of_not_isShort not_isShort_limit] at htext
  cases htext

end MovePlan.Tracking
