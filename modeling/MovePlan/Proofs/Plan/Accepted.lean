import MovePlan.Plan.Decode
import MovePlan.Proofs.Json.Fields

/-!
# Plans that are decoded

What single fields are decoded to, what the fields of a step are, and how the graph comes from the steps one
after the other. It is read off the decoder once, so that nothing later has to go through it again.
-/

namespace MovePlan.Plan

open Graph Json Error

variable {path : String} {v : Json} {fields : Fields}

/-! ## Fields -/

/-- A text that is accepted is not empty. -/
theorem textAt_eq_ok {s : String} (h : textAt path v = .ok s) : v = .str s ∧ s ≠ "" := by
  unfold textAt at h
  split at h
  · split at h
    · cases h
    · next hs =>
      cases h
      exact ⟨rfl, hs⟩
  · cases h

/-- A number that is accepted is an integer. -/
theorem naturalAt_eq_ok {n : Nat} (h : naturalAt path v = .ok n) : v = .int n := by
  unfold naturalAt at h
  split at h
  · next k =>
    split at h
    · next hk =>
      cases h
      rw [Int.toNat_of_nonneg hk]
    · cases h
  · cases h

/-- A mode that is accepted is one of the words. -/
theorem modeAt_eq_ok {m : Mode} (h : modeAt path (some v) = .ok m) : v = .str m.word := by
  unfold modeAt at h
  split at h
  · next hw => cases hw
  · cases h
  · cases h
  · next w _ _ hw =>
    cases hw
    split at h
    · next hm =>
      cases h
      obtain ⟨s, hs, hm⟩ := Option.bind_eq_some_iff.mp hm
      rw [eq_str_of_text? hs, Mode.eq_word_of_ofWord? hm]
    · cases h

theorem textAt_of_ne {s : String} (h : s ≠ "") (path : String) : textAt path (.str s) = .ok s := by
  rw [textAt, if_neg h]

/-- An integer that is not negative is accepted as it is. -/
theorem naturalAt_of_nonneg {n : Int} (h : 0 ≤ n) (path : String) :
    naturalAt path (.int n) = .ok n.toNat := by
  rw [naturalAt, if_pos h]

/-- The word of a mode is accepted as the mode. -/
theorem modeAt_word (m : Mode) (path : String) : modeAt path (some (.str m.word)) = .ok m := by
  simp [modeAt, Json.text?, Mode.ofWord?_word]

/-- A list of texts is accepted as it is. -/
theorem typeArgumentsAt_arr {ts : List Json} (h : ∀ t ∈ ts, t.text?.isSome = true)
    (path : String) : typeArgumentsAt path (.arr ts) = .ok ts := by
  cases ts with
  | nil => rfl
  | cons t rest =>
    simp only [typeArgumentsAt, Json.given, List.isEmpty_cons, Bool.not_false, Bool.not_true,
      Bool.false_eq_true, if_false, List.all_eq_true.mpr h, if_true]

/-! ## Lists -/

/-- Every item of a list that is decoded is. -/
theorem exists_of_decodeEach {α : Type} {decode : String → Json → Except Error α} {i : Nat}
    {xs : List Json} {as : List α} (h : decodeEach decode path i xs = .ok as) :
    ∀ x ∈ xs, ∃ path a, decode path x = .ok a := by
  induction xs generalizing i as with
  | nil => simp
  | cons x rest ih =>
    simp only [decodeEach, bind_eq_ok_iff] at h
    obtain ⟨a, ha, as', has, -⟩ := h
    exact List.forall_mem_cons.mpr ⟨⟨_, a, ha⟩, ih has⟩

/-! ## Steps -/

/-- A step is accepted exactly if each of its fields is. -/
theorem decodeStep_obj_eq_ok_iff {draft : StepGraph.Draft} :
    decodeStep path (.obj fields) = .ok draft ↔ ∃ label function types xs args,
      textAt s!"{path}.label" (Json.get "label" (.obj fields)) = .ok label ∧
      Json.get "function" (.obj fields) = .str function ∧
      typeArgumentsAt s!"{path}.typeArguments" (Json.get "typeArguments" (.obj fields)) = .ok types ∧
      Json.get "args" (.obj fields) = .arr xs ∧
      decodeEach decodeArg s!"{path}.args" 0 xs = .ok args ∧
      draft = ⟨.str label, .field (.str function), .arr types, args⟩ := by
  simp only [decodeStep, isObject, Bool.not_true, Bool.false_eq_true, if_false, bind_eq_ok_iff]
  constructor
  · rintro ⟨label, hlabel, h⟩
    split at h
    · next function hfunction =>
      simp only [bind_eq_ok_iff] at h
      obtain ⟨_, hpure, types, htypes, h⟩ := h
      cases hpure
      split at h
      · next xs hxs =>
        obtain ⟨args, hargs, h⟩ := bind_eq_ok_iff.mp h
        cases h
        exact ⟨label, _, types, xs, args, hlabel, hfunction, htypes, hxs, hargs, rfl⟩
      · obtain ⟨_, h, -⟩ := bind_eq_ok_iff.mp h
        cases h
    · obtain ⟨_, h, -⟩ := bind_eq_ok_iff.mp h
      cases h
  · rintro ⟨label, function, types, xs, args, hlabel, hfunction, htypes, hxs, hargs, rfl⟩
    refine ⟨label, hlabel, ?_⟩
    rw [hfunction]
    refine bind_eq_ok_iff.mpr ⟨function, rfl, bind_eq_ok_iff.mpr ⟨types, htypes, ?_⟩⟩
    rw [hxs]
    exact bind_eq_ok_iff.mpr ⟨args, hargs, rfl⟩

/-- Only an object is accepted as a step. -/
theorem exists_obj_of_decodeStep {draft : StepGraph.Draft} (h : decodeStep path v = .ok draft) :
    ∃ fields, v = .obj fields := by
  cases v with
  | obj fields => exact ⟨fields, rfl⟩
  | _ => cases h

/-- Steps are accepted if the first is, the graph takes it, and the others are. -/
theorem decodeSteps_cons_eq_ok_iff {i : Nat} {rest : List Json} {g g' : StepGraph} :
    decodeSteps i (v :: rest) g = .ok g' ↔ ∃ draft g₁, decodeStep s!"$.steps[{i}]" v = .ok draft ∧
      g.add draft = .ok g₁ ∧ decodeSteps (i + 1) rest g₁ = .ok g' := by
  simp only [decodeSteps, bind_eq_ok_iff]
  constructor
  · rintro ⟨draft, hdraft, g₁, hadd, h⟩
    exact ⟨draft, g₁, hdraft, hadd, h⟩
  · rintro ⟨draft, g₁, hdraft, hadd, h⟩
    exact ⟨draft, hdraft, g₁, hadd, h⟩

/-- Every step of a plan that is decoded is. -/
theorem exists_of_decodeSteps {i : Nat} {steps : List Json} {g g' : StepGraph}
    (h : decodeSteps i steps g = .ok g') : ∀ s ∈ steps, ∃ path draft, decodeStep path s = .ok draft := by
  induction steps generalizing i g with
  | nil => simp
  | cons s rest ih =>
    obtain ⟨draft, g₁, hdraft, -, h⟩ := decodeSteps_cons_eq_ok_iff.mp h
    exact List.forall_mem_cons.mpr ⟨⟨_, draft, hdraft⟩, ih h⟩

/-! ## Plans -/

/-- A plan is accepted exactly if its tokens are and its steps make a graph. -/
theorem decode_eq_ok_iff {doc : Document} : decode v = .ok doc ↔ ∃ fields steps tokens graph,
    v = .obj fields ∧ Json.get "steps" v = .arr steps ∧
      decodeTokens (Json.get "tokens" v) = .ok tokens ∧ decodeSteps 0 steps .empty = .ok graph ∧
      doc = ⟨graph, tokens⟩ := by
  cases v with
  | obj fields =>
    simp only [decode, isObject, Bool.not_true, Bool.false_eq_true, if_false]
    constructor
    · intro h
      split at h
      · next steps hsteps =>
        simp only [bind_eq_ok_iff] at h
        obtain ⟨tokens, htokens, graph, hgraph, h⟩ := h
        cases h
        exact ⟨fields, steps, tokens, graph, rfl, hsteps, htokens, hgraph, rfl⟩
      · cases h
    · rintro ⟨_, steps, tokens, graph, -, hsteps, htokens, hgraph, rfl⟩
      rw [hsteps]
      exact bind_eq_ok_iff.mpr ⟨tokens, htokens, bind_eq_ok_iff.mpr ⟨graph, hgraph, rfl⟩⟩
  | _ =>
    constructor
    · intro h
      cases h
    · rintro ⟨_, _, _, _, h, -⟩
      cases h

end MovePlan.Plan
