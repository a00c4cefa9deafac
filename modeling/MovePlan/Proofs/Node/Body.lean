import MovePlan.Node.Exchange
import MovePlan.Proofs.Json.Line

/-!
# Bodies

A body is read as the document that it spells, once the zero bytes in it have told how. The text of a
document on one line has none, so that such a body is read back. An integer is read exactly if it has a
text: with more digits a body is JSON, but nothing is read from it.
-/

namespace MovePlan

open Text Numeric Json

/-- Without zero bytes a text is in units of one byte. -/
theorem Text.Encoding.ofStart_eq_utf8 {bytes : List UInt8} (h : 0 ∉ bytes) :
    ofStart bytes = .utf8 := by
  unfold ofStart
  split
  · simp only [List.mem_cons, not_or] at h
    rw [if_neg (Ne.symm h.1), if_neg (Ne.symm h.2.1)]
  · simp only [List.mem_cons, not_or] at h
    rw [if_neg (Ne.symm h.1), if_neg (Ne.symm h.2.1)]
  · rfl

namespace Node

variable {s : List Char} {v : Json} {n : Int}

/-- Only the character of number zero has a zero among its bytes. -/
theorem zero_not_mem_bytes (h : Prints s) : 0 ∉ (String.ofList s).toUTF8.data.toList := by
  rw [String.toUTF8, String.toByteArray_ofList, List.utf8Encode, List.data_toByteArray]
  intro hmem
  obtain ⟨c, hc, hbyte⟩ := List.mem_flatMap.1 hmem
  obtain ⟨hlow, hhigh⟩ : 0x20 ≤ c.val.toNat ∧ c.val.toNat < 0x7F := h c hc
  rw [String.utf8EncodeChar, if_pos (by omega), List.mem_singleton] at hbyte
  have hzero : (0 : UInt8).toNat = c.val.toNat := by
    rw [hbyte, UInt8.toNat_ofNat_of_lt' (Nat.lt_trans hhigh (by decide))]
  rw [← hzero] at hlow
  exact absurd hlow (by decide)

/-- A text that prints is the text of its body. -/
theorem bodyText_ofList (h : Prints s) : bodyText (String.ofList s) = .ok s := by
  unfold bodyText
  simp only [Encoding.ofStart_eq_utf8 (zero_not_mem_bytes h), String.toList_ofList]
  cases s with
  | nil => rfl
  | cons c rest =>
    split
    next hmark =>
      obtain rfl := (List.cons.inj hmark).1
      exact absurd (h _ List.mem_cons_self).2 (by decide)
    next => rfl
    next hother _ => exact (hother rfl).elim

/-- A body of printing characters is read as the text it is. -/
theorem readBody_ofList (h : Prints s) : readBody (String.ofList s) =
    (readFrom [] .value s).mapError (describeFault s) := by
  rw [readBody, bodyText_ofList h]
  rfl

/-- **A document on one line is a body that is read back.** -/
theorem readBody_writeLine (h : IsReadable v) : readBody (String.ofList (writeLine v)) = .ok v := by
  rw [readBody_ofList (prints_writeLine h.wellFormed), readFrom_writeLine h]
  rfl

/-- An integer with too many digits is a fault of the body. -/
theorem readFrom_longInteger (h : hasText n = false) :
    ∃ f, readFrom [] .value (intText n) = .error f := by
  have hread := readPlain?_intText_end n
  obtain ⟨c, tail, htext⟩ := List.exists_cons_of_ne_nil (intText_ne_nil n)
  rw [htext] at hread ⊢
  -- the first character opens nothing, so that the number is read at once
  obtain ⟨hgap, -, -, hquote, harr, hobj⟩ := readPlain?_cons hread
  have hstep : stepChar [] .value c tail =
      .error ⟨.longInteger (natText n.natAbs).length, c :: tail⟩ := by
    rw [stepChar, stepValue, if_neg hquote, if_neg harr, if_neg hobj, hread]
    simp [surplus?, h]
  exact ⟨_, by rw [readFrom_eq, skipGap_cons hgap, step, hstep]⟩

/-- **The digits of an integer are a body that is read exactly if the integer has a text.** -/
theorem exists_readBody_intText_iff :
    (∃ j, readBody (String.ofList (intText n)) = .ok j) ↔ hasText n = true := by
  constructor
  · rintro ⟨j, hj⟩
    by_contra hlong
    obtain ⟨f, hf⟩ := readFrom_longInteger (Bool.eq_false_of_not_eq_true hlong)
    rw [readBody_ofList (prints_intText n), hf] at hj
    cases hj
  · intro h
    exact ⟨_, readBody_writeLine (v := .int n) ⟨.int n, h⟩⟩

end Node

end MovePlan
