import MovePlan.Proofs.Validation.References
import MovePlan.Validation.Validator

/-!
# What the checks find

Each of the three walks has findings of its own kind (`Issue.concern`): about the call that a step
makes, about a reference, or about an output that must not be lost. Of each walk it is said that it
comes to an end on a graph of proper arguments, and when one of its findings is hard: those about
references always are, those about outputs never, and those about a call if its function is not found
or if a count differs (`Fills`).
-/

namespace MovePlan.Validation

open Move Graph Abi Error

/-! ## Kinds of findings -/

/-- What a finding is about. -/
inductive Concern where
  | call
  | reference
  | output
  deriving DecidableEq, Repr

def Issue.concern : Issue → Concern
  | referenceOrder .. | returnIndex .. | repeatedMove .. => .reference
  | unconsumed .. | unmoved .. => .output
  | _ => .call

/-- Whether an issue is one of those that do not keep a transaction from being built. -/
def Issue.isAdvice : Issue → Bool
  | signerExpected .. | signerMisplaced .. | unconsumed .. | unmoved .. => true
  | _ => false

theorem isHardCode_eq (code : String) :
    isHardCode code = "_ERROR".toList.isSuffixOf code.toList := by
  rw [Bool.eq_iff_iff, isHardCode, String.endsWith_eq_endsWith_toSlice,
    String.Slice.endsWith_string_iff, String.copy_toSlice, List.isSuffixOf_iff_suffix]

/-- A finding of the validator is hard unless it is advice. -/
theorem Finding.isHard_eq {f : Finding} (h : ∀ code message, f.issue ≠ .other code message) :
    f.isHard = !f.issue.isAdvice := by
  obtain ⟨label, issue⟩ := f
  rw [Finding.isHard, Finding.code, isHardCode_eq]
  cases issue with
  | other code message => exact absurd rfl (h code message)
  | _ =>
    simp only [Issue.code, Issue.isAdvice]
    decide

theorem Finding.isHard_of_reference {f : Finding} (h : f.issue.concern = .reference) :
    f.isHard = true := by
  rw [Finding.isHard_eq (fun _ _ he => by rw [he] at h; cases h)]
  cases hi : f.issue <;> rw [hi] at h <;> first | rfl | cases h

theorem Finding.isHard_of_output {f : Finding} (h : f.issue.concern = .output) :
    f.isHard = false := by
  rw [Finding.isHard_eq (fun _ _ he => by rw [he] at h; cases h)]
  cases hi : f.issue <;> rw [hi] at h <;> first | rfl | cases h

theorem Report.ok_iff {r : Report} : r.ok = true ↔ ∀ f ∈ r.findings, f.isHard = false := by
  simp [Report.ok, Report.errors]

/-! ## Calls -/

/-- Whether a call has as many arguments of each sort as a signature asks for. -/
structure Fills (s : Step) (sig : Signature) : Prop where
  generics : s.typeArguments.length = sig.generics
  signers : s.signerArgs.length = sig.signers
  params : s.otherArgs.length = sig.params.length

variable {label : String} {sig : Signature} {s : Step} {steps : List Step} {f : Finding}
  {findings : List Finding}

theorem exists_checkPosition_eq_ok (sig : Signature) (label : String) (position : Nat) {a : Arg}
    (ha : a.isProper = true) :
    ∃ findings, checkPosition sig label position a = .ok findings ∧
      ∀ f ∈ findings, f.step = label ∧ f.issue.concern = .call ∧ f.isHard = false := by
  have hkind : ∃ kind, a.kind? = some kind := by cases a <;> first | exact ⟨_, rfl⟩ | cases ha
  obtain ⟨kind, hkind⟩ := hkind
  have hexpected : ∀ f ∈ [(⟨label, .signerExpected position kind⟩ : Finding)],
      f.step = label ∧ f.issue.concern = .call ∧ f.isHard = false := by
    simp [Issue.concern, Finding.isHard_eq, Issue.isAdvice]
  have hmisplaced : ∀ type, ∀ f ∈ [(⟨label, .signerMisplaced position type⟩ : Finding)],
      f.step = label ∧ f.issue.concern = .call ∧ f.isHard = false := by
    simp [Issue.concern, Finding.isHard_eq, Issue.isAdvice]
  unfold checkPosition
  split
  · split
    · exact ⟨[], rfl, by simp⟩
    · rw [hkind]
      exact ⟨_, rfl, hexpected⟩
  · split
    · exact ⟨_, rfl, hmisplaced _⟩
    · exact ⟨[], rfl, by simp⟩

/-- Signers in the wrong place are never more than advice. -/
theorem exists_checkPositions_eq_ok (sig : Signature) (label : String) (position : Nat)
    {args : List Arg} (hp : ∀ a ∈ args, a.isProper = true) :
    ∃ findings, checkPositions sig label position args = .ok findings ∧
      ∀ f ∈ findings, f.step = label ∧ f.issue.concern = .call ∧ f.isHard = false := by
  induction args generalizing position with
  | nil => exact ⟨[], rfl, by simp⟩
  | cons a rest ih =>
    obtain ⟨here, hhere, hsoft⟩ :=
      exists_checkPosition_eq_ok sig label position (hp a List.mem_cons_self)
    obtain ⟨later, hlater, hrest⟩ := ih (position + 1) fun b hb => hp b (List.mem_cons_of_mem a hb)
    refine ⟨here ++ later, ?_, fun f hf => (List.mem_append.mp hf).elim (hsoft f) (hrest f)⟩
    simp only [checkPositions, hhere, hlater, bind, Except.bind, pure, Except.pure]

theorem mem_checkCount {issue : Nat → Nat → Issue} {expected given : Nat} :
    f ∈ checkCount label issue expected given ↔
      given ≠ expected ∧ f = ⟨label, issue expected given⟩ := by
  unfold checkCount
  split <;> simp [*]

/-- A count that differs is a hard finding. -/
theorem checkCount_soft_iff {issue : Nat → Nat → Issue} {expected given : Nat}
    (hi : ∀ code message, issue expected given ≠ .other code message)
    (ha : (issue expected given).isAdvice = false) :
    (∀ f ∈ checkCount label issue expected given, f.isHard = false) ↔ given = expected := by
  have hhard : (⟨label, issue expected given⟩ : Finding).isHard = true := by
    rw [Finding.isHard_eq hi, ha, Bool.not_false]
  constructor
  · intro h
    by_cases he : given = expected
    · exact he
    · rw [h _ (mem_checkCount.mpr ⟨he, rfl⟩)] at hhard
      cases hhard
  · rintro he f hf
    exact absurd he (mem_checkCount.mp hf).1

theorem exists_checkStep_eq_ok (hp : ∀ a ∈ s.args, a.isProper = true) (sig : Signature) :
    ∃ findings, checkStep s sig = .ok findings ∧
      (∀ f ∈ findings, f.step = s.label ∧ f.issue.concern = .call) ∧
      ((∀ f ∈ findings, f.isHard = false) ↔ Fills s sig) := by
  obtain ⟨positions, hpositions, hsoft⟩ := exists_checkPositions_eq_ok sig s.label 0 hp
  refine ⟨_, by rw [checkStep, hpositions]; rfl, ?_, ?_⟩
  · simp only [List.mem_append, mem_checkCount]
    rintro f (((⟨-, rfl⟩ | ⟨-, rfl⟩) | ⟨-, rfl⟩) | hf)
    · exact ⟨rfl, rfl⟩
    · exact ⟨rfl, rfl⟩
    · exact ⟨rfl, rfl⟩
    · exact ⟨(hsoft f hf).1, (hsoft f hf).2.1⟩
  · have hpos : ∀ f ∈ positions, f.isHard = false := fun f hf => (hsoft f hf).2.2
    rw [List.forall_mem_append, List.forall_mem_append, List.forall_mem_append,
      checkCount_soft_iff (by simp) rfl, checkCount_soft_iff (by simp) rfl,
      checkCount_soft_iff (by simp) rfl]
    exact ⟨fun ⟨⟨⟨hg, hs⟩, hp⟩, _⟩ => ⟨hg, hs, hp⟩,
      fun h => ⟨⟨⟨h.generics, h.signers⟩, h.params⟩, hpos⟩⟩

theorem exists_checkFetched_eq_ok (hp : ∀ a ∈ s.args, a.isProper = true) (known : Fetched) :
    ∃ findings, checkFetched s known = .ok findings ∧
      (∀ f ∈ findings, f.step = s.label ∧ f.issue.concern = .call) ∧
      ((∀ f ∈ findings, f.isHard = false) ↔ ∃ sig, known.signature = some sig ∧ Fills s sig) := by
  cases hs : known.signature with
  | none =>
    refine ⟨_, by rw [checkFetched, hs], by simp [Issue.concern], ?_⟩
    simp [Finding.isHard_eq, Issue.isAdvice]
  | some sig =>
    obtain ⟨findings, hfindings, hcall, hsoft⟩ := exists_checkStep_eq_ok hp sig
    refine ⟨findings, by rw [checkFetched, hs]; exact hfindings, hcall, ?_⟩
    simpa using hsoft

variable {known : FunctionId → Fetched}

theorem checkSteps_cons_eq_ok_iff :
    checkSteps known (s :: steps) = .ok findings ↔
      ∃ here later, checkFetched s (known s.function) = .ok here ∧
        checkSteps known steps = .ok later ∧ here ++ later = findings := by
  rw [checkSteps]
  simp only [bind_eq_ok_iff, pure, Except.pure, Except.ok.injEq]
  constructor
  · rintro ⟨here, hhere, later, hlater, rfl⟩
    exact ⟨here, later, hhere, hlater, rfl⟩
  · rintro ⟨here, later, hhere, hlater, rfl⟩
    exact ⟨here, hhere, later, hlater, rfl⟩

/-- **The calls of proper steps are checked to the end.** No finding is hard exactly when every
function is found and every call fills its signature. -/
theorem exists_checkSteps_eq_ok (known : FunctionId → Fetched)
    (hp : ∀ s ∈ steps, ∀ a ∈ s.args, a.isProper = true) :
    ∃ findings, checkSteps known steps = .ok findings ∧
      (∀ f ∈ findings, f.step ∈ steps.map Step.label ∧ f.issue.concern = .call) ∧
      ((∀ f ∈ findings, f.isHard = false) ↔
        ∀ s ∈ steps, ∃ sig, (known s.function).signature = some sig ∧ Fills s sig) := by
  induction steps with
  | nil => exact ⟨[], rfl, by simp, by simp⟩
  | cons s rest ih =>
    obtain ⟨here, hhere, hcall, hsoft⟩ :=
      exists_checkFetched_eq_ok (hp s List.mem_cons_self) (known s.function)
    obtain ⟨later, hlater, hcalls, hrest⟩ := ih fun t ht => hp t (List.mem_cons_of_mem s ht)
    refine ⟨here ++ later, checkSteps_cons_eq_ok_iff.mpr ⟨here, later, hhere, hlater, rfl⟩, ?_, ?_⟩
    · intro f hf
      rw [List.map_cons, List.mem_cons]
      rcases List.mem_append.mp hf with hf | hf
      · exact ⟨Or.inl (hcall f hf).1, (hcall f hf).2⟩
      · exact ⟨Or.inr (hcalls f hf).1, (hcalls f hf).2⟩
    · rw [List.forall_mem_append, hsoft, hrest, List.forall_mem_cons]

/-- Findings about calls name the steps that were checked. -/
theorem concern_checkSteps (hp : ∀ s ∈ steps, ∀ a ∈ s.args, a.isProper = true)
    (h : checkSteps known steps = .ok findings) :
    ∀ f ∈ findings, f.step ∈ steps.map Step.label ∧ f.issue.concern = .call := by
  obtain ⟨_, h', hcall, -⟩ := exists_checkSteps_eq_ok known hp
  obtain rfl := Except.ok.inj (h.symm.trans h')
  exact hcall

/-- The findings about one call are those that come from its own check. -/
theorem filter_checkSteps (hp : ∀ s ∈ steps, ∀ a ∈ s.args, a.isProper = true)
    (hnd : (steps.map Step.label).Nodup) (h : checkSteps known steps = .ok findings)
    (hs : s ∈ steps) :
    checkFetched s (known s.function) = .ok (findings.filter fun f => f.step == s.label) := by
  induction steps generalizing findings with
  | nil => cases hs
  | cons t rest ih =>
    rw [List.map_cons, List.nodup_cons] at hnd
    obtain ⟨here, later, hhere, hlater, rfl⟩ := checkSteps_cons_eq_ok_iff.mp h
    obtain ⟨_, hhere', hcall, -⟩ :=
      exists_checkFetched_eq_ok (hp t List.mem_cons_self) (known t.function)
    obtain rfl := Except.ok.inj (hhere.symm.trans hhere')
    have hrest := fun u hu => hp u (List.mem_cons_of_mem t hu)
    have hcalls := concern_checkSteps hrest hlater
    rw [List.filter_append]
    -- labels are distinct, so that one of the two parts has no finding about the step
    rcases List.mem_cons.mp hs with rfl | hs
    · have hall : here.filter (fun f => f.step == s.label) = here :=
        List.filter_eq_self.mpr fun f hf => by simp [(hcall f hf).1]
      have hnone : later.filter (fun f => f.step == s.label) = [] :=
        List.filter_eq_nil_iff.mpr fun f hf he =>
          hnd.1 (beq_iff_eq.mp he ▸ (hcalls f hf).1)
      rw [hall, hnone, List.append_nil, hhere]
    · have hne : t.label ≠ s.label := fun he => hnd.1 (he ▸ List.mem_map_of_mem hs)
      have hnone : here.filter (fun f => f.step == s.label) = [] :=
        List.filter_eq_nil_iff.mpr fun f hf => by simp [(hcall f hf).1, hne]
      rw [hnone, List.nil_append, ih hrest hnd.2 hlater hs]

/-! ## References -/

variable {arity : String → Option Nat} {w w' : RefWalk}

theorem concern_checkArg {a : Arg} {issue : Option Issue}
    (h : checkArg arity label a w = .ok (issue, w')) :
    ∀ i, issue = some i → i.concern = .reference := by
  intro i hi
  cases a with
  | signer | literal | foreign =>
    cases h
    cases hi
  | ref r =>
    have hcase := refCase_checkRef arity label r w
    rw [(checkArg_ref_eq_ok_iff.mp h).1, hi] at hcase
    cases hcase <;> rfl
  | strayRef step =>
    cases step <;> cases h <;> cases hi <;> rfl

theorem concern_checkArgs {args : List Arg}
    (h : checkArgs arity label args w = .ok (findings, w')) :
    ∀ f ∈ findings, f.issue.concern = .reference := by
  induction args generalizing w findings with
  | nil =>
    cases h
    simp
  | cons a rest ih =>
    obtain ⟨issue, w₁, later, ha, hrest, rfl⟩ := checkArgs_cons_eq_ok_iff.mp h
    intro f hf
    rcases List.mem_append.mp hf with hf | hf
    · obtain ⟨i, hi, rfl⟩ := List.mem_map.mp hf
      exact concern_checkArg ha i (Option.mem_toList.mp hi)
    · exact ih hrest f hf

/-- The walk over the references has findings about references only. -/
theorem concern_checkRefsFrom (h : checkRefsFrom arity steps w = .ok findings) :
    ∀ f ∈ findings, f.issue.concern = .reference := by
  induction steps generalizing w findings with
  | nil =>
    cases h
    simp
  | cons s rest ih =>
    obtain ⟨here, w₁, later, hhere, hlater, rfl⟩ := checkRefsFrom_cons_eq_ok_iff.mp h
    intro f hf
    exact (List.mem_append.mp hf).elim (concern_checkArgs hhere f) (ih hlater f)

/-! ## Outputs -/

variable {g : StepGraph}

theorem concern_checkOutput {index : Nat} (hf : f ∈ checkOutput g label sig index) :
    f.step = label ∧ f.issue.concern = .output := by
  unfold checkOutput at hf
  dsimp only at hf
  split at hf
  · rw [List.mem_singleton.mp hf]
    exact ⟨rfl, rfl⟩
  · split at hf
    · cases hf
    · rw [List.mem_singleton.mp hf]
      exact ⟨rfl, rfl⟩

/-- The check of the outputs has findings about the outputs of calls that it is given. -/
theorem concern_checkConsumption {checked : List (Step × Signature)}
    (hf : f ∈ checkConsumption g checked) :
    f.issue.concern = .output ∧ ∃ k ∈ checked, f.step = k.1.label := by
  obtain ⟨k, hk, hf⟩ := List.mem_flatMap.mp hf
  obtain ⟨index, -, hf⟩ := List.mem_flatMap.mp hf
  have hout := concern_checkOutput hf
  exact ⟨hout.2, k, hk, hout.1⟩

/-! ## Reports -/

variable {answers : List (FunctionId × Fetched)} {report : Report}

theorem reportOn_eq_ok_iff :
    reportOn g answers = .ok report ↔ ∃ calls refs,
      checkSteps (knownIn answers) g.steps = .ok calls ∧
        checkRefs g (signaturesIn answers) = .ok refs ∧
        report = ⟨calls ++ refs ++ checkConsumption g (checkedSteps (knownIn answers) g.steps),
          signaturesIn answers⟩ := by
  rw [reportOn]
  simp only [bind_eq_ok_iff, pure, Except.pure, Except.ok.injEq]
  constructor
  · rintro ⟨calls, hcalls, refs, hrefs, rfl⟩
    exact ⟨calls, refs, hcalls, hrefs, rfl⟩
  · rintro ⟨calls, refs, hcalls, hrefs, rfl⟩
    exact ⟨calls, hcalls, refs, hrefs, rfl⟩

theorem signatures_reportOn (h : reportOn g answers = .ok report) :
    report.signatures = signaturesIn answers := by
  obtain ⟨calls, refs, -, -, rfl⟩ := reportOn_eq_ok_iff.mp h
  rfl

theorem exists_reportOn_eq_ok (hg : g.IsProper) (answers : List (FunctionId × Fetched)) :
    ∃ report, reportOn g answers = .ok report := by
  obtain ⟨calls, hcalls, -⟩ := exists_checkSteps_eq_ok (knownIn answers) hg.isProper
  obtain ⟨refs, hrefs⟩ := exists_checkRefs_eq_ok hg (signaturesIn answers)
  exact ⟨_, reportOn_eq_ok_iff.mpr ⟨calls, refs, hcalls, hrefs, rfl⟩⟩

/-- **A report is in order exactly when every call fills the signature of its function and the walk
over the references has no finding.** -/
theorem ok_reportOn_iff (hg : g.IsProper) (h : reportOn g answers = .ok report) :
    report.ok = true ↔
      (∀ s ∈ g.steps, ∃ sig, (knownIn answers s.function).signature = some sig ∧ Fills s sig) ∧
        checkRefs g (signaturesIn answers) = .ok [] := by
  obtain ⟨calls, refs, hcalls, hrefs, rfl⟩ := reportOn_eq_ok_iff.mp h
  obtain ⟨_, hcalls', -, hsoft⟩ := exists_checkSteps_eq_ok (knownIn answers) hg.isProper
  obtain rfl := Except.ok.inj (hcalls.symm.trans hcalls')
  have houtputs : ∀ f ∈ checkConsumption g (checkedSteps (knownIn answers) g.steps),
      f.isHard = false := fun f hf => Finding.isHard_of_output (concern_checkConsumption hf).1
  have hnone : (∀ f ∈ refs, f.isHard = false) ↔ refs = [] := by
    rw [List.eq_nil_iff_forall_not_mem]
    refine forall₂_congr fun f hf => ?_
    simp [Finding.isHard_of_reference (concern_checkRefsFrom hrefs f hf)]
  rw [Report.ok_iff, List.forall_mem_append, List.forall_mem_append, hsoft, hnone, hrefs,
    Except.ok.injEq]
  exact and_iff_left houtputs

/-- The findings of a report about the call of a step and its outputs. -/
def Report.aboutCall (r : Report) (label : String) : List Finding :=
  r.findings.filter fun f => f.step == label && f.issue.concern != .reference

/-- **A function that is not found is the one finding about a call.** -/
theorem aboutCall_of_not_found (hg : g.IsProper) (h : reportOn g answers = .ok report)
    (hs : s ∈ g.steps) (hnone : (knownIn answers s.function).signature = none) :
    report.aboutCall s.label =
      [⟨s.label, .functionNotFound s.function (knownIn answers s.function).cause⟩] := by
  obtain ⟨calls, refs, hcalls, hrefs, rfl⟩ := reportOn_eq_ok_iff.mp h
  have hcall := concern_checkSteps hg.isProper hcalls
  have hrefs' : refs.filter (fun f => f.step == s.label && f.issue.concern != .reference) = [] :=
    List.filter_eq_nil_iff.mpr fun f hf => by simp [concern_checkRefsFrom hrefs f hf]
  have houtputs : (checkConsumption g (checkedSteps (knownIn answers) g.steps)).filter
      (fun f => f.step == s.label && f.issue.concern != .reference) = [] := by
    refine List.filter_eq_nil_iff.mpr fun f hf hkeep => ?_
    obtain ⟨-, k, hk, hstep⟩ := concern_checkConsumption hf
    -- the outputs that are checked are those of functions that were found
    obtain ⟨t, ht, hsig⟩ := List.mem_filterMap.mp hk
    obtain ⟨sig, hfound, rfl⟩ := Option.map_eq_some_iff.mp hsig
    rw [Bool.and_eq_true, beq_iff_eq, hstep] at hkeep
    rw [StepGraph.eq_of_label ht hs hkeep.1, hnone] at hfound
    cases hfound
  have hown : calls.filter (fun f => f.step == s.label && f.issue.concern != .reference) =
      calls.filter fun f => f.step == s.label :=
    List.filter_congr fun f hf => by simp [(hcall f hf).2]
  have hchecked := filter_checkSteps hg.isProper g.nodup_labels hcalls hs
  rw [checkFetched, hnone, Except.ok.injEq] at hchecked
  rw [Report.aboutCall, List.filter_append, List.filter_append, hrefs', houtputs, hown,
    ← hchecked, List.append_nil, List.append_nil]

end MovePlan.Validation
