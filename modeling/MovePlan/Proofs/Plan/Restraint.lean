import MovePlan.Proofs.Plan.Corrections
import MovePlan.Proofs.Plan.Grammar
import MovePlan.Text.Word

/-!
# Repair changes nothing but slips

A plan and its repair differ only in fields that corrections name, and there by what the slip is about.
A mode is known by its letters of ASCII: one with other letters stays as it is, and the plan is not
decoded (`repair_mends_only`). All else in a mode is passed over, be it a separator or not, so that a digit
or a letter of another script in a mode is lost (`repair_drops_digits`).
-/

namespace MovePlan.Plan

open Graph Json Text

theorem value?_arg_eq_some_iff {i j : Nat} {slip : Slip} {p v : Json} :
    Correction.value? ⟨.arg i j, slip⟩ p = some v ↔ ∃ s a, (p.get? "steps").bind (item? i) = some s ∧
      (s.get? "args").bind (item? j) = some a ∧ a.get? slip.key = some v := by
  show (((p.get? "steps").bind (item? i)).bind fun s =>
    ((s.get? "args").bind (item? j)).bind (Json.get? slip.key)) = some v ↔ _
  constructor
  · intro h
    obtain ⟨s, hs, h⟩ := Option.bind_eq_some_iff.mp h
    obtain ⟨a, ha, h⟩ := Option.bind_eq_some_iff.mp h
    exact ⟨s, a, hs, ha, h⟩
  · rintro ⟨s, a, hs, ha, h⟩
    rw [hs, Option.bind_some, ha]
    exact h

/-- The argument at a place of a plan that is decoded. -/
theorem argForm_of_decode {p s a : Json} {doc : Document} {i j : Nat} (h : decode p = .ok doc)
    (hs : (p.get? "steps").bind (item? i) = some s) (ha : (s.get? "args").bind (item? j) = some a) :
    ∃ fields, a = .obj fields ∧ ArgForm fields := by
  obtain ⟨fields, steps, -, graph, rfl, hsteps, -, hgraph, -⟩ := decode_eq_ok_iff.mp h
  rw [Json.get?, field?_of_getD hsteps (by simp)] at hs
  obtain ⟨path, draft, hstep⟩ := exists_of_decodeSteps hgraph s (List.mem_of_getElem? hs)
  obtain ⟨fields, rfl⟩ := exists_obj_of_decodeStep hstep
  obtain ⟨-, -, -, xs, args, -, -, -, hxs, hargs, -⟩ := decodeStep_obj_eq_ok_iff.mp hstep
  rw [Json.get?, field?_of_getD hxs (by simp)] at ha
  obtain ⟨path, arg, harg⟩ := exists_of_decodeEach hargs a (List.mem_of_getElem? ha)
  exact argForm_of_decodeArg harg

/-- The mode of a reference in a plan that is decoded is the word for one. -/
theorem exists_mode_of_decode {p v : Json} {doc : Document} {i j : Nat} (h : decode p = .ok doc)
    (hkind : Correction.value? ⟨.arg i j, .kind⟩ p = some (.str "ref"))
    (hmode : Correction.value? ⟨.arg i j, .mode⟩ p = some v) : ∃ m : Mode, v = .str m.word := by
  obtain ⟨s, a, hs, ha, hkind⟩ := value?_arg_eq_some_iff.mp hkind
  obtain ⟨s', a', hs', ha', hmode⟩ := value?_arg_eq_some_iff.mp hmode
  obtain rfl : s = s' := Option.some.inj (hs.symm.trans hs')
  obtain rfl : a = a' := Option.some.inj (ha.symm.trans ha')
  obtain ⟨fields, rfl, hform⟩ := argForm_of_decode h hs ha
  cases hform with
  | signer h => exact absurd (Option.some.inj (h.symm.trans hkind)) (by simp)
  | literal h => exact absurd (Option.some.inj (h.symm.trans hkind)) (by simp)
  | ref _ _ hmodes => exact hmodes v hmode

/-- **A plan and its repair differ only where a slip is mended. A mode with other letters of ASCII than
any mode's stays as it is, and its plan is not decoded.** -/
theorem repair_mends_only (p : Json) :
    PlansAgree (fun c v w => c ∈ (repair p).2 ∧ c.slip.Mends v w) p (repair p).1 ∧
      ∀ i j s, Correction.value? ⟨.arg i j, .mode⟩ p = some (.str s) →
        (∀ m : Mode, asciiLetters s.toList ≠ asciiLetters m.word.toList) →
        Correction.value? ⟨.arg i j, .mode⟩ (repair p).1 = some (.str s) ∧
          (Correction.value? ⟨.arg i j, .kind⟩ (repair p).1 = some (.str "ref") →
            ∀ doc, decode (repair p).1 ≠ .ok doc) := by
  have hagree := (planMended_repair p).agree
  refine ⟨hagree, fun i j s hs hletters => ?_⟩
  have hstays : Correction.value? ⟨.arg i j, .mode⟩ (repair p).1 = some (.str s) := by
    rcases hagree.value? ⟨.arg i j, .mode⟩ with heq | ⟨v, w, hv, -, -, s', m, hs', -, hm⟩
    · rw [← heq, hs]
    · obtain rfl : s = s' := Json.str.inj ((Option.some.inj (hs.symm.trans hv)).trans hs')
      exact absurd hm (hletters m)
  refine ⟨hstays, fun hkind doc hdoc => ?_⟩
  obtain ⟨m, hm⟩ := exists_mode_of_decode hdoc hkind hstays
  exact hletters m (by rw [Json.str.inj hm])

/-! ## Modes that are almost one -/

/-- A plan that borrows what it took, with the mode in some spelling. -/
def borrowing (mode : String) : Json :=
  .obj [("steps", .arr [
    .obj [("label", .str "take"), ("function", .str "0x1::vault::take"), ("args", .arr [])],
    .obj [("label", .str "peek"), ("function", .str "0x1::vault::peek"), ("args", .arr [
      .obj [("kind", .str "Ref"), ("step", .str "take"), ("returnIndex", .str "0"),
        ("mode", .str mode)]])]])]

theorem repair_mends_only_steal :
    Correction.value? ⟨.arg 1 0, .mode⟩ (repair (borrowing "steal")).1 = some (.str "steal") ∧
      ∀ doc, decode (repair (borrowing "steal")).1 ≠ .ok doc := by
  have hstays := (repair_mends_only (borrowing "steal")).2 1 0 "steal" rfl fun m => by
    cases m <;> decide
  exact ⟨hstays.1, hstays.2 rfl⟩

/-- The letters and digits of a text, in lower case. -/
def lettersAndDigits (s : List Char) : List Char := (lower s).filter isAlphanumeric

/-- The repair of a mode may lose a digit. -/
theorem repair_drops_digits : ¬ ∀ p c s t, c ∈ (repair p).2 → c.slip = .mode →
    c.value? p = some (.str s) → c.value? (repair p).1 = some (.str t) →
    lettersAndDigits s.toList = lettersAndDigits t.toList := by
  intro h
  have hkept := h (borrowing "mo9ve") ⟨.arg 1 0, .mode⟩ "mo9ve" "move" (by decide) rfl rfl rfl
  exact absurd hkept (by decide)

end MovePlan.Plan
