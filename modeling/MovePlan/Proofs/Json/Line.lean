import MovePlan.Proofs.Json.RoundTrip
import MovePlan.Proofs.Text.Lines

/-!
# Rows

The text of a value on one line has printing characters of ASCII only (`prints_writeLine`): everything
else in its strings is escaped. So a row has no line end but the one after it, whatever is in it, and
rows that stand one after the other are split into the lines that they were (`splitLines_rows`), each
of which is read back as its row.
-/

namespace MovePlan.Json

open Numeric Text

/-- Whether a text has only characters of ASCII that print, the blank among them. -/
def Prints (s : List Char) : Prop := ∀ c ∈ s, 0x20 ≤ c.toNat ∧ c.toNat < 0x7F

instance (s : List Char) : Decidable (Prints s) := List.decidableBAll _ s

variable {s t : List Char} {c : Char}

theorem prints_append : Prints (s ++ t) ↔ Prints s ∧ Prints t := List.forall_mem_append

theorem prints_cons : Prints (c :: s) ↔ (0x20 ≤ c.toNat ∧ c.toNat < 0x7F) ∧ Prints s :=
  List.forall_mem_cons

/-- Digits print. -/
theorem prints_of_isDigit (h : ∀ c ∈ s, c.isDigit = true) : Prints s := fun c hc => by
  have hcode := toNat_of_isDigit (h c hc)
  omega

/-- What prints ends no line. -/
theorem Prints.isLine (h : Prints s) : IsLine s := fun c hc => by
  obtain ⟨hlow, hhigh⟩ := h c hc
  simp only [isLineEnd, Bool.or_eq_false_iff, Bool.and_eq_false_iff, decide_eq_false_iff_not,
    beq_eq_false_iff_ne]
  omega

/-! ## Strings -/

theorem prints_hexDigits (width n : Nat) : Prints (hexDigits width n) := by
  induction width generalizing n with
  | zero => exact fun _ hc => (nomatch hc)
  | succ width ih =>
    have hall : ∀ d < 16, Prints [hexChar d] := by decide
    exact prints_append.2 ⟨ih (n / 16), hall _ (Nat.mod_lt n (by decide))⟩

/-- An escape is a backslash, a letter and digits. -/
theorem prints_unitEscape (n : Nat) : Prints (unitEscape n) :=
  prints_cons.2 ⟨by decide, prints_cons.2 ⟨by decide, prints_hexDigits 4 n⟩⟩

/-- However a character is written, it prints. -/
theorem prints_writeChar (c : Char) : Prints (writeChar c) := by
  have hwritten := writtenAs_writeChar c
  generalize writeChar c = text at hwritten ⊢
  cases hwritten with
  | short h =>
    have hall : ∀ p ∈ shortEscapes, Prints ['\\', p.1] := by decide
    exact hall _ h
  | itself h => exact List.forall_mem_singleton.2 h
  | unit => exact prints_unitEscape _
  | pair => exact prints_append.2 ⟨prints_unitEscape _, prints_unitEscape _⟩

/-- The text of a string prints, its quotes too. -/
theorem prints_writeString (k : String) : Prints (writeString k) := by
  have hchars : Prints (k.toList.flatMap writeChar) := fun d hd => by
    obtain ⟨c, -, hc⟩ := List.mem_flatMap.1 hd
    exact prints_writeChar c d hc
  exact prints_append.2 ⟨prints_cons.2 ⟨by decide, hchars⟩, by decide⟩

/-! ## Numbers -/

theorem prints_natText (n : Nat) : Prints (natText n) :=
  prints_of_isDigit fun _ => isDigit_of_mem_natText

/-- The text of an integer prints. -/
theorem prints_intText (n : Int) : Prints (intText n) := by
  unfold intText
  split
  · exact prints_cons.2 ⟨by decide, prints_natText _⟩
  · exact prints_natText _

theorem prints_zeros (n : Nat) : Prints (List.replicate n '0') := fun c hc => by
  rw [List.eq_of_mem_replicate hc]
  decide

/-- With a point among them, digits print as before. -/
theorem prints_positional (hs : Prints s) (point : Int) : Prints (positional s point) := by
  have htake : ∀ n, Prints (s.take n) := fun n c hc => hs c (List.mem_of_mem_take hc)
  have hdrop : ∀ n, Prints (s.drop n) := fun n c hc => hs c (List.mem_of_mem_drop hc)
  unfold positional
  dsimp only
  split
  · exact prints_append.2
      ⟨prints_cons.2 ⟨by decide, prints_cons.2 ⟨by decide, prints_zeros _⟩⟩, hs⟩
  · split
    · exact prints_append.2 ⟨prints_append.2 ⟨hs, prints_zeros _⟩, by decide⟩
    · exact prints_append.2 ⟨htake _, prints_cons.2 ⟨by decide, hdrop _⟩⟩

/-- With an exponent after them, digits print as before. -/
theorem prints_scientific (hs : Prints s) (power : Int) : Prints (scientific s power) := by
  have htake : Prints (s.take 1) := fun c hc => hs c (List.mem_of_mem_take hc)
  have hdrop : Prints (s.drop 1) := fun c hc => hs c (List.mem_of_mem_drop hc)
  have hsign : Prints ['e', if power < 0 then '-' else '+'] := by split <;> decide
  unfold scientific
  dsimp only
  refine prints_append.2 ⟨prints_append.2 ⟨prints_append.2 ⟨htake, ?_⟩, hsign⟩,
    prints_of_isDigit fun _ => isDigit_of_mem_padded⟩
  split
  · decide
  · exact prints_cons.2 ⟨by decide, hdrop⟩

theorem prints_magnitudeText (d : Decimal) : Prints (magnitudeText d) := by
  have hpoint : ∀ point, Prints (if deepestPositional ≤ point ∧ point ≤ widestPositional then
      positional (natText d.coefficient) point
      else scientific (natText d.coefficient) (point - 1)) := by
    intro point
    split
    · exact prints_positional (prints_natText _) _
    · exact prints_scientific (prints_natText _) _
  exact hpoint _

/-- Every floating-point number has a text that prints. -/
theorem prints_writeFloat (x : Binary64) : Prints (writeFloat x) := by
  cases x with
  | nan => decide
  | infinity negative => cases negative <;> decide
  | finite negative m e =>
    have hsign : Prints (Binary64.signText negative) := by cases negative <;> decide
    exact prints_append.2 ⟨hsign, prints_magnitudeText _⟩

/-! ## Values -/

/-- Items that print do so in a row. -/
theorem prints_writeLineItems {xs : List Json} (h : ∀ x ∈ xs, Prints (writeLine x)) :
    Prints (writeLineItems xs) := by
  induction xs with
  | nil => decide
  | cons x xs ih =>
    obtain ⟨hx, hxs⟩ := List.forall_mem_cons.1 h
    cases xs with
    | nil => exact hx
    | cons y ys =>
      exact prints_append.2 ⟨hx, prints_cons.2 ⟨by decide, prints_cons.2 ⟨by decide, ih hxs⟩⟩⟩

/-- Fields print, with their keys. -/
theorem prints_writeLineFields {fs : Fields} (h : ∀ f ∈ fs, Prints (writeLine f.2)) :
    Prints (writeLineFields fs) := by
  induction fs with
  | nil => decide
  | cons f fs ih =>
    obtain ⟨k, v⟩ := f
    obtain ⟨hv, hfs⟩ := List.forall_mem_cons.1 h
    have hfield : Prints (writeString k ++ ':' :: ' ' :: writeLine v) :=
      prints_append.2 ⟨prints_writeString k, prints_cons.2 ⟨by decide, prints_cons.2 ⟨by decide, hv⟩⟩⟩
    cases fs with
    | nil => exact hfield
    | cons g gs =>
      exact prints_append.2 ⟨hfield, prints_cons.2 ⟨by decide, prints_cons.2 ⟨by decide, ih hfs⟩⟩⟩

/-- **What stands on one line prints.** -/
theorem prints_writeLine {v : Json} (h : WellFormed v) : Prints (writeLine v) := by
  induction h with
  | null => decide
  | bool b => cases b <;> decide
  | int n => exact prints_intText n
  | float hx => exact prints_writeFloat _
  | str k => exact prints_writeString k
  | arr _ ih => exact prints_append.2 ⟨prints_cons.2 ⟨by decide, prints_writeLineItems ih⟩, by decide⟩
  | obj _ _ ih =>
    exact prints_append.2 ⟨prints_cons.2 ⟨by decide, prints_writeLineFields ih⟩, by decide⟩

/-- A row is one line. -/
theorem isLine_line {v : Json} (h : WellFormed v) : IsLine v.line.toList := by
  rw [line, String.toList_ofList]
  exact (prints_writeLine (wellFormed_sorted h)).isLine

/-- **Rows are split into the lines that they were written as.** -/
theorem splitLines_rows {rows : List Json} (h : ∀ row ∈ rows, WellFormed row) :
    splitLines (rows.flatMap fun row => row.line.toList ++ ['\n']) =
      rows.map fun row => row.line.toList := by
  have hlines : ∀ l ∈ rows.map fun row => row.line.toList, IsLine l :=
    List.forall_mem_map.2 fun row hrow => isLine_line (h row hrow)
  have hsplit := splitLines_flatMap hlines
  rwa [List.flatMap_map] at hsplit

end MovePlan.Json
