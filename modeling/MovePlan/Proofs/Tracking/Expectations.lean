import Mathlib.Data.List.Forall2
import MovePlan.Tracking.Expectation

/-!
# When an expectation is met

What an expectation says is put apart from how it is judged. `Expectation.IsMet` says it of what is
known before and after a step: the changes of the tracked tokens, and the position. An expectation
about something that is not known is not met.

Judging agrees with that, one expectation at a time (`judge_eq_ok`) and over all expectations of a
step in their order (`judgeAll_eq_ok`).
-/

namespace MovePlan.Tracking

open Simulation Move

/-- The change of an asset's balance: that of the first tracked token with the asset's address; none
if no asset is named, or none that is tracked. -/
def change? (tokens : List Token) (deltas : List Delta) (asset : Json) : Option Int := do
  let s ← asset.text?
  let k ← if s = "" then none else tokens.findIdx? fun t => Address.same t.metadata s
  deltas[k]?.map Delta.change

section

variable (tokens : List Token) (deltas : List Delta) (before after : Option Vault)

/-- What a subject asks of a step. -/
def Subject.IsMet (asset : Json) : Subject → Prop
  | balanceIncrease => ∃ change ∈ change? tokens deltas asset, 0 < change
  | balanceDecrease => ∃ change ∈ change? tokens deltas asset, change < 0
  | debtDecrease => ∃ v ∈ before, ∃ w ∈ after, w.debt < v.debt
  | collateralDecrease => ∃ v ∈ before, ∃ w ∈ after, w.collateral < v.collateral
  | success => True
  | other _ => False

instance Subject.decidableIsMet (asset : Json) :
    (subject : Subject) → Decidable (subject.IsMet tokens deltas before after asset)
  | balanceIncrease => inferInstanceAs (Decidable (∃ change ∈ change? tokens deltas asset, 0 < change))
  | balanceDecrease => inferInstanceAs (Decidable (∃ change ∈ change? tokens deltas asset, change < 0))
  | debtDecrease => inferInstanceAs (Decidable (∃ v ∈ before, ∃ w ∈ after, w.debt < v.debt))
  | collateralDecrease =>
    inferInstanceAs (Decidable (∃ v ∈ before, ∃ w ∈ after, w.collateral < v.collateral))
  | success => inferInstanceAs (Decidable True)
  | other _ => inferInstanceAs (Decidable False)

/-- Whether an expectation is met by a step with the given deltas and the position before and after
it. -/
def Expectation.IsMet (e : Expectation) : Prop := e.subject.IsMet tokens deltas before after e.token

instance (e : Expectation) : Decidable (e.IsMet tokens deltas before after) :=
  inferInstanceAs (Decidable (e.subject.IsMet tokens deltas before after e.token))

end

variable {tokens : List Token} {deltas : List Delta} {before after : Option Vault} {e : Expectation}
  {v : Verdict}

/-! ## One expectation -/

/-- The delta that is found for an asset is the one in the place of the first token with its
address. -/
theorem change_findDelta (htokens : deltas.map Delta.token = tokens) {asset : Json}
    {found : Option Delta} (h : findDelta deltas asset = .ok found) :
    found.map Delta.change = change? tokens deltas asset := by
  cases asset with
  | str s =>
    by_cases hs : s = ""
    · obtain rfl : none = found := by simpa [findDelta, hs] using h
      simp [change?, Json.text?, hs]
    · obtain rfl : deltas.find? (fun d => Address.same d.token.metadata s) = found := by
        simpa [findDelta, hs] using h
      subst htokens
      rw [List.find?_eq_bind_findIdx?_getElem?]
      simp [change?, Json.text?, hs, List.findIdx?_map, Function.comp_def, Option.map_bind]
  | _ =>
    -- Nothing else names an asset: it is refused, or passed over if it is empty.
    simp only [findDelta] at h
    split at h
    · cases h
    · obtain rfl := Except.ok.inj h
      rfl

theorem judgeBalance_eq_ok (htokens : deltas.map Delta.token = tokens) {holds : Int → Bool}
    (h : judgeBalance e deltas holds = .ok v) :
    v.description = e.description ∧
      (v.passed = true ↔ ∃ change ∈ change? tokens deltas e.token, holds change = true) := by
  obtain ⟨found, hfound, h⟩ := Error.bind_eq_ok_iff.1 h
  rw [← change_findDelta htokens hfound]
  cases found <;>
  · obtain rfl := Except.ok.inj h
    simp

theorem judgeVault_eq_ok {what : String} {amount : Vault → Int}
    (h : judgeVault e before after what amount = .ok v) :
    v.description = e.description ∧
      (v.passed = true ↔ ∃ b ∈ before, ∃ a ∈ after, amount a < amount b) := by
  unfold judgeVault at h
  split at h
  next b a =>
    obtain ⟨old, -, h⟩ := Error.bind_eq_ok_iff.1 h
    obtain ⟨new, -, h⟩ := Error.bind_eq_ok_iff.1 h
    obtain rfl := Except.ok.inj h
    simp
  next hnone =>
    obtain rfl := Except.ok.inj h
    refine ⟨rfl, iff_of_false Bool.false_ne_true ?_⟩
    rintro ⟨b, rfl, a, rfl, -⟩
    exact hnone b a rfl rfl

/-- **An expectation is judged to pass exactly when it is met.** -/
theorem judge_eq_ok (htokens : deltas.map Delta.token = tokens)
    (h : judge deltas before after e = .ok v) :
    v.description = e.description ∧ (v.passed = true ↔ e.IsMet tokens deltas before after) := by
  rw [Expectation.IsMet]
  cases hsubject : e.subject with
  | balanceIncrease =>
    simp only [judge, hsubject] at h
    simpa [Subject.IsMet] using judgeBalance_eq_ok htokens h
  | balanceDecrease =>
    simp only [judge, hsubject] at h
    simpa [Subject.IsMet] using judgeBalance_eq_ok htokens h
  | debtDecrease =>
    simp only [judge, hsubject] at h
    exact judgeVault_eq_ok h
  | collateralDecrease =>
    simp only [judge, hsubject] at h
    exact judgeVault_eq_ok h
  | success =>
    simp only [judge, hsubject] at h
    obtain rfl := Except.ok.inj h
    exact ⟨rfl, by simp [Subject.IsMet]⟩
  | other j =>
    simp only [judge, hsubject] at h
    obtain rfl := Except.ok.inj h
    exact ⟨rfl, by simp [Subject.IsMet]⟩

/-! ## The expectations of a step -/

/-- **There is one verdict for each expectation, in order**, and it passes exactly when the
expectation is met. -/
theorem judgeAll_eq_ok (htokens : deltas.map Delta.token = tokens) {es : List Expectation}
    {vs : List Verdict} (h : judgeAll deltas before after es = .ok vs) :
    List.Forall₂ (fun e v => v.description = e.description ∧
      (v.passed = true ↔ e.IsMet tokens deltas before after)) es vs := by
  induction es generalizing vs with
  | nil =>
    obtain rfl := Except.ok.inj h
    exact .nil
  | cons e rest ih =>
    obtain ⟨v, hv, h⟩ := Error.bind_eq_ok_iff.1 h
    obtain ⟨later, hlater, h⟩ := Error.bind_eq_ok_iff.1 h
    obtain rfl := Except.ok.inj h
    exact .cons (judge_eq_ok htokens hv) (ih hlater)

end MovePlan.Tracking
