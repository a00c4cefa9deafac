import MovePlan.Proofs.Validation.Cached
import MovePlan.Proofs.Validation.Linearity

/-!
# Graphs that grow

A step is added at the end of a graph. In a fixed world the functions of the steps before it are found
as they were, so that the two walks come to the same findings about them and go on to the new step
(`checkSteps_append`, `checkRefsFrom_append`). The walk over the references asks for the outputs of
declared steps only, so that it does not notice what the new step brings (`checkRefsFrom_congr`). The new
step may use outputs that were lost before, and takes no use away.
-/

namespace MovePlan.Validation

open Move Graph Abi Error

variable {steps more : List Step} {s : Step} {label : String} {findings : List Finding}

/-! ## Calls -/

variable {known known' : FunctionId → Fetched}

/-- Steps are checked against what is known of their own functions only. -/
theorem checkSteps_congr (h : ∀ s ∈ steps, known s.function = known' s.function) :
    checkSteps known steps = checkSteps known' steps := by
  induction steps with
  | nil => rfl
  | cons s rest ih =>
    rw [checkSteps, checkSteps, h s List.mem_cons_self,
      ih fun t ht => h t (List.mem_cons_of_mem s ht)]

/-- The steps of a longer list are checked one part after the other. -/
theorem checkSteps_append (h : checkSteps known (steps ++ more) = .ok findings) :
    ∃ here later, checkSteps known steps = .ok here ∧ checkSteps known more = .ok later ∧
      here ++ later = findings := by
  induction steps generalizing findings with
  | nil => exact ⟨[], findings, rfl, h, rfl⟩
  | cons s rest ih =>
    obtain ⟨first, others, hfirst, hothers, rfl⟩ := checkSteps_cons_eq_ok_iff.mp h
    obtain ⟨here, later, hhere, hlater, rfl⟩ := ih hothers
    exact ⟨first ++ here, later,
      checkSteps_cons_eq_ok_iff.mpr ⟨first, here, hfirst, hhere, rfl⟩, hlater,
      List.append_assoc first here later⟩

/-! ## References -/

variable {arity arity' : String → Option Nat} {w w' : RefWalk} {r : Ref} {a : Arg}
  {issue : Option Issue}

theorem declared_checkArg (h : checkArg arity label a w = .ok (issue, w')) :
    w'.declared = w.declared := by
  cases a with
  | signer | literal | foreign =>
    cases h
    rfl
  | ref r =>
    have hcase := refCase_checkRef arity label r w
    rw [(checkArg_ref_eq_ok_iff.mp h).1] at hcase
    cases hcase <;> rfl
  | strayRef step =>
    cases step <;> cases h <;> rfl

/-- Checking arguments declares no labels. -/
theorem declared_checkArgs {args : List Arg}
    (h : checkArgs arity label args w = .ok (findings, w')) : w'.declared = w.declared := by
  induction args generalizing w findings with
  | nil =>
    cases h
    rfl
  | cons a rest ih =>
    obtain ⟨issue, w₁, later, ha, hrest, -⟩ := checkArgs_cons_eq_ok_iff.mp h
    rw [ih hrest, declared_checkArg ha]

/-- How many outputs a step has is asked for when it is declared. -/
theorem checkRef_congr (h : ∀ l ∈ w.declared, arity l = arity' l) :
    checkRef arity label r w = checkRef arity' label r w := by
  unfold checkRef
  by_cases hd : r.step ∈ w.declared
  · rw [h r.step hd]
  · simp [hd]

/-- A reference is judged by the arities of the labels before it. -/
theorem checkArg_congr (h : ∀ l ∈ w.declared, arity l = arity' l) :
    checkArg arity label a w = checkArg arity' label a w := by
  cases a with
  | ref r => rw [checkArg, checkArg, checkRef_congr h]
  | signer | literal | foreign => rfl
  | strayRef step => cases step <;> rfl

theorem checkArgs_congr {args : List Arg} (h : ∀ l ∈ w.declared, arity l = arity' l) :
    checkArgs arity label args w = checkArgs arity' label args w := by
  induction args generalizing w with
  | nil => rfl
  | cons a rest ih =>
    rw [checkArgs, checkArgs, checkArg_congr h]
    cases ha : checkArg arity' label a w with
    | error e => rfl
    | ok out =>
      obtain ⟨issue, w₁⟩ := out
      have hlater := ih (w := w₁) (declared_checkArg ha ▸ h)
      simp only [bind, Except.bind, hlater]

/-- A walk depends on the arities of the labels that it meets. -/
theorem checkRefsFrom_congr
    (h : ∀ l ∈ w.declared ++ steps.map Step.label, arity l = arity' l) :
    checkRefsFrom arity steps w = checkRefsFrom arity' steps w := by
  induction steps generalizing w with
  | nil => rfl
  | cons s rest ih =>
    rw [checkRefsFrom, checkRefsFrom,
      checkArgs_congr fun l hl => h l (List.mem_append_left _ hl)]
    cases hs : checkArgs arity' s.label s.args w with
    | error e => rfl
    | ok out =>
      obtain ⟨here, w₁⟩ := out
      have hlater := ih (w := { w₁ with declared := w₁.declared ++ [s.label] }) (by
        simpa [declared_checkArgs hs] using h)
      simp only [bind, Except.bind, hlater]

theorem step_checkArgs {args : List Arg}
    (h : checkArgs arity label args w = .ok (findings, w')) : ∀ f ∈ findings, f.step = label := by
  induction args generalizing w findings with
  | nil =>
    cases h
    simp
  | cons a rest ih =>
    obtain ⟨issue, w₁, later, -, hrest, rfl⟩ := checkArgs_cons_eq_ok_iff.mp h
    intro f hf
    rcases List.mem_append.mp hf with hf | hf
    · obtain ⟨i, -, rfl⟩ := List.mem_map.mp hf
      rfl
    · exact ih hrest f hf

/-- Each finding names a step of the walk. -/
theorem step_checkRefsFrom (h : checkRefsFrom arity steps w = .ok findings) :
    ∀ f ∈ findings, f.step ∈ steps.map Step.label := by
  induction steps generalizing w findings with
  | nil =>
    cases h
    simp
  | cons s rest ih =>
    obtain ⟨here, w₁, later, hhere, hlater, rfl⟩ := checkRefsFrom_cons_eq_ok_iff.mp h
    intro f hf
    rw [List.map_cons, List.mem_cons]
    exact (List.mem_append.mp hf).imp (step_checkArgs hhere f) (ih hlater f)

/-- What is found in the first part is found first, whatever steps follow. -/
theorem checkRefsFrom_append (h : checkRefsFrom arity (steps ++ more) w = .ok findings) :
    ∃ here later, checkRefsFrom arity steps w = .ok here ∧
      (∀ f ∈ later, f.step ∈ more.map Step.label) ∧ here ++ later = findings := by
  induction steps generalizing w findings with
  | nil => exact ⟨[], findings, rfl, step_checkRefsFrom h, rfl⟩
  | cons s rest ih =>
    obtain ⟨first, w₁, others, hfirst, hothers, rfl⟩ := checkRefsFrom_cons_eq_ok_iff.mp h
    obtain ⟨here, later, hhere, hlater, rfl⟩ := ih hothers
    exact ⟨first ++ here, later,
      checkRefsFrom_cons_eq_ok_iff.mpr ⟨first, w₁, here, hfirst, hhere, rfl⟩, hlater,
      List.append_assoc first here later⟩

/-! ## What a world tells -/

section World

variable {w : World} {d d' : Desk (List Lookup)} {g g' : StepGraph} {report report' : Report}

/-- What is known of a function of a world once it is looked up. -/
def toldBy (w : World) (id : FunctionId) : Fetched :=
  match (fetch w.source id ⟨{}, []⟩).1 with
  | .ok f => f
  | .error _ => ⟨none, none⟩

theorem fst_fetch_eq_ok (hsrc : w.source.FailsOnlyToFetch) (hd : d.Coherent w)
    (id : FunctionId) : (fetch w.source id d).1 = .ok (toldBy w id) := by
  obtain ⟨f, hf, -⟩ := exists_fetch_eq_ok hsrc id (⟨{}, []⟩ : Desk (List Lookup))
  rw [fst_fetch_eq hd (Desk.coherent_empty w), toldBy, hf]

/-- What is known of the functions of a graph once they are looked up. -/
def answersOf (w : World) (g : StepGraph) : List (FunctionId × Fetched) :=
  g.functionIds.map fun id => (id, toldBy w id)

theorem collect_fetchEach (hsrc : w.source.FailsOnlyToFetch) (hd : d.Coherent w)
    (ids : List FunctionId) : collect (fetchEach w.source ids d).1 =
      .ok (ids.map fun id => (id, toldBy w id)) := by
  induction ids generalizing d with
  | nil => rfl
  | cons id rest ih =>
    have hlater := ih (hd.of_leads (leads_fetch w.source id d))
    simp only [fetchEach, collect, fst_fetch_eq_ok hsrc hd id, hlater, bind, Except.bind, pure,
      Except.pure, List.map_cons]

/-- In a fixed world a report depends on the graph alone. -/
theorem validate_eq (hsrc : w.source.FailsOnlyToFetch) (hd : d.Coherent w) (g : StepGraph) :
    (validate w.source g d).1 = reportOn g (answersOf w g) := by
  simp only [validate, collect_fetchEach hsrc hd]
  rfl

theorem knownIn_map {ids : List FunctionId} {id : FunctionId} (h : id ∈ ids) :
    knownIn (ids.map fun id => (id, toldBy w id)) id = toldBy w id := by
  induction ids with
  | nil => cases h
  | cons first rest ih =>
    rw [List.map_cons]
    by_cases he : id = first
    · rw [he, knownIn_cons_self]
    · rw [knownIn_cons_of_ne _ he, ih (List.mem_of_ne_of_mem he h)]

theorem knownIn_answersOf (hs : s ∈ g.steps) :
    knownIn (answersOf w g) s.function = toldBy w s.function :=
  knownIn_map (StepGraph.mem_functionIds.mpr ⟨s, hs, rfl⟩)

/-- The signatures of a report are what the world tells of the functions. -/
theorem lookup_signaturesIn_answersOf (hs : s ∈ g.steps) :
    (signaturesIn (answersOf w g)).lookup s.function.text = (toldBy w s.function).signature := by
  have hkeys : ((answersOf w g).map Prod.fst).Nodup := by
    simpa [answersOf, Function.comp_def] using g.nodup_functionIds
  rw [lookup_signaturesIn hkeys, knownIn_answersOf hs]

theorem arityIn_answersOf (hs : s ∈ g.steps) : arityIn g (signaturesIn (answersOf w g)) s.label =
    (toldBy w s.function).signature.map Signature.arity := by
  rw [arityIn_label hs, lookup_signaturesIn_answersOf hs]

/-! ## One more step -/

/-- What a report on a graph with one more step keeps of the report before. -/
structure Report.Keeps (labels : List String) (before after : Report) : Prop where
  /-- The findings about the calls and the references of the steps before are the same. -/
  found : (after.findings.filter fun f => f.issue.concern != .output && labels.contains f.step) =
    before.findings.filter fun f => f.issue.concern != .output
  /-- No hard finding is lost. -/
  errors : before.errors.Sublist after.errors
  /-- An output that nothing is said of is not complained of. -/
  unflagged : ∀ l ∈ labels, ∀ i, ¬before.Unconsumed l i → ¬before.Unmoved l i →
    ¬after.Unconsumed l i ∧ ¬after.Unmoved l i
  /-- An output that is used stays used. -/
  unmoved : ∀ l ∈ labels, ∀ i, before.Unmoved l i → ¬after.Unconsumed l i

/-- What is found about the calls of the steps before is the same, and more only about the new step. -/
theorem exists_calls_eq (hsteps : g'.steps = g.steps ++ [s]) {calls all : List Finding}
    (h : checkSteps (knownIn (answersOf w g)) g.steps = .ok calls)
    (h' : checkSteps (knownIn (answersOf w g')) g'.steps = .ok all) :
    ∃ new, checkSteps (knownIn (answersOf w g')) [s] = .ok new ∧ all = calls ++ new := by
  have hknown : ∀ t ∈ g.steps,
      knownIn (answersOf w g') t.function = knownIn (answersOf w g) t.function := fun t ht => by
    rw [knownIn_answersOf ht, knownIn_answersOf (hsteps ▸ List.mem_append_left _ ht)]
  rw [hsteps] at h'
  obtain ⟨_, new, hcalls, hnew, rfl⟩ := checkSteps_append h'
  obtain rfl := Except.ok.inj (hcalls.symm.trans ((checkSteps_congr hknown).trans h))
  exact ⟨new, hnew, rfl⟩

/-- What is found about the references of the steps before is the same, and more only about those of the
new step. -/
theorem exists_refs_eq (hsteps : g'.steps = g.steps ++ [s]) {refs all : List Finding}
    (h : checkRefs g (signaturesIn (answersOf w g)) = .ok refs)
    (h' : checkRefs g' (signaturesIn (answersOf w g')) = .ok all) :
    ∃ new, (∀ f ∈ new, f.step = s.label) ∧ all = refs ++ new := by
  have harity : ∀ l ∈ g.labels, arityIn g' (signaturesIn (answersOf w g')) l =
      arityIn g (signaturesIn (answersOf w g)) l := by
    intro l hl
    obtain ⟨t, ht, rfl⟩ := List.mem_map.mp hl
    rw [arityIn_answersOf ht, arityIn_answersOf (hsteps ▸ List.mem_append_left _ ht)]
  rw [checkRefs, hsteps] at h'
  obtain ⟨_, new, hrefs, hnew, rfl⟩ := checkRefsFrom_append h'
  have hwalk : checkRefsFrom _ g.steps {} = checkRefsFrom _ g.steps {} := checkRefsFrom_congr harity
  obtain rfl := Except.ok.inj (hrefs.symm.trans (hwalk.trans h))
  exact ⟨new, fun f hf => by simpa using hnew f hf, rfl⟩

/-- The findings about calls and references are the ones before, with those of the new step put in. -/
theorem exists_findings_eq (hg : g.IsProper) (hg' : g'.IsProper)
    (hsteps : g'.steps = g.steps ++ [s])
    (h : reportOn g (answersOf w g) = .ok report)
    (h' : reportOn g' (answersOf w g') = .ok report') :
    ∃ calls refs outputs newCalls newRefs newOutputs,
      report.findings = calls ++ refs ++ outputs ∧
      report'.findings = calls ++ newCalls ++ (refs ++ newRefs) ++ newOutputs ∧
      (∀ f ∈ calls ++ refs, f.issue.concern ≠ .output ∧ f.step ∈ g.labels) ∧
      (∀ f ∈ newCalls ++ newRefs, f.step = s.label) ∧
      ∀ f ∈ outputs ++ newOutputs, f.issue.concern = .output := by
  obtain ⟨calls, refs, hcalls, hrefs, rfl⟩ := reportOn_eq_ok_iff.mp h
  obtain ⟨_, _, hcalls', hrefs', rfl⟩ := reportOn_eq_ok_iff.mp h'
  obtain ⟨newCalls, hnewCalls, rfl⟩ := exists_calls_eq hsteps hcalls hcalls'
  obtain ⟨newRefs, hnewRefs, rfl⟩ := exists_refs_eq hsteps hrefs hrefs'
  have hproper : ∀ t ∈ [s], ∀ a ∈ t.args, a.isProper = true :=
    List.forall_mem_singleton.mpr (hg'.isProper s (by simp [hsteps]))
  have hcall := concern_checkSteps hg.isProper hcalls
  have hnewCall := concern_checkSteps hproper hnewCalls
  refine ⟨_, _, _, _, _, _, rfl, rfl, fun f hf => ?_, fun f hf => ?_, fun f hf => ?_⟩
  · rcases List.mem_append.mp hf with hf | hf
    · exact ⟨by simp [(hcall f hf).2], (hcall f hf).1⟩
    · exact ⟨by simp [concern_checkRefsFrom hrefs f hf], step_checkRefsFrom hrefs f hf⟩
  · rcases List.mem_append.mp hf with hf | hf
    · simpa using (hnewCall f hf).1
    · exact hnewRefs f hf
  · rcases List.mem_append.mp hf with hf | hf <;> exact (concern_checkConsumption hf).1

/-- The findings of the graph before the step are among those after it, apart from outputs. -/
theorem found_of_append (hg : g.IsProper) (hg' : g'.IsProper)
    (hsteps : g'.steps = g.steps ++ [s])
    (h : reportOn g (answersOf w g) = .ok report)
    (h' : reportOn g' (answersOf w g') = .ok report') :
    (report'.findings.filter fun f =>
        f.issue.concern != .output && g.labels.contains f.step) =
      report.findings.filter fun f => f.issue.concern != .output := by
  obtain ⟨calls, refs, outputs, newCalls, newRefs, newOutputs, hreport, hreport', hbefore, hnew,
    houtput⟩ := exists_findings_eq hg hg' hsteps h h'
  rw [List.forall_mem_append] at hbefore hnew houtput
  have hlabel : s.label ∉ g.labels := by
    have hnd := g'.nodup_labels
    rw [hsteps, List.map_append, List.map_singleton, List.nodup_append] at hnd
    exact fun hmem => hnd.2.2 s.label hmem s.label (List.mem_singleton_self _) rfl
  have hkeep : ∀ fs : List Finding, (∀ f ∈ fs, f.issue.concern ≠ .output ∧ f.step ∈ g.labels) →
      (fs.filter fun f => f.issue.concern != .output && g.labels.contains f.step) = fs ∧
        (fs.filter fun f => f.issue.concern != .output) = fs := fun fs hfs =>
    ⟨List.filter_eq_self.mpr fun f hf => by simp [hfs f hf],
      List.filter_eq_self.mpr fun f hf => by simp [hfs f hf]⟩
  have hdrop : ∀ fs : List Finding, (∀ f ∈ fs, f.step = s.label) →
      (fs.filter fun f => f.issue.concern != .output && g.labels.contains f.step) = [] :=
    fun fs hfs => List.filter_eq_nil_iff.mpr fun f hf => by simp [hfs f hf, hlabel]
  have hquiet : ∀ fs : List Finding, (∀ f ∈ fs, f.issue.concern = .output) →
      (fs.filter fun f => f.issue.concern != .output && g.labels.contains f.step) = [] ∧
        (fs.filter fun f => f.issue.concern != .output) = [] := fun fs hfs =>
    ⟨List.filter_eq_nil_iff.mpr fun f hf => by simp [hfs f hf],
      List.filter_eq_nil_iff.mpr fun f hf => by simp [hfs f hf]⟩
  simp only [hreport, hreport', List.filter_append, (hkeep calls hbefore.1).1,
    (hkeep refs hbefore.2).1, (hkeep calls hbefore.1).2, (hkeep refs hbefore.2).2,
    hdrop newCalls hnew.1, hdrop newRefs hnew.2, (hquiet outputs houtput.1).2,
    (hquiet newOutputs houtput.2).1, List.append_nil]

/-- Hard findings are not about outputs. -/
theorem errors_of_found {labels : List String}
    (h : (report'.findings.filter fun f =>
        f.issue.concern != .output && labels.contains f.step) =
      report.findings.filter fun f => f.issue.concern != .output) :
    report.errors.Sublist report'.errors := by
  have hhard : report.errors =
      (report.findings.filter fun f => f.issue.concern != .output).filter Finding.isHard := by
    rw [Report.errors, List.filter_filter]
    refine List.filter_congr fun f hf => ?_
    cases hc : f.issue.concern with
    | output => simp [Finding.isHard_of_output hc]
    | call | reference => simp
  rw [hhard, ← h, Report.errors]
  exact (List.filter_sublist).filter _

/-- The references of a new step are the last ones to an output. -/
theorem exists_refsTo_eq (hsteps : g'.steps = g.steps ++ [s]) (label : String) (i : Nat) :
    ∃ more, g'.refsTo label i = g.refsTo label i ++ more := by
  rw [StepGraph.refsTo, hsteps, List.flatMap_append]
  exact ⟨_, rfl⟩

/-- The outputs of the steps before that must not be lost are the same. -/
theorem mustMove_of_append (hsteps : g'.steps = g.steps ++ [s])
    (h : reportOn g (answersOf w g) = .ok report)
    (h' : reportOn g' (answersOf w g') = .ok report') {i : Nat}
    (hl : label ∈ g.labels)
    (hmust : ∃ t ∈ g'.steps, t.label = label ∧ MustMove report'.signatures t i) :
    ∃ t ∈ g.steps, t.label = label ∧ MustMove report.signatures t i := by
  obtain ⟨t, ht, rfl, sig, hsig, hdrop⟩ := hmust
  obtain ⟨u, hu, hlabel⟩ := List.mem_map.mp hl
  have hu' : u ∈ g'.steps := hsteps ▸ List.mem_append_left _ hu
  obtain rfl := StepGraph.eq_of_label hu' ht hlabel
  rw [signatures_reportOn h', lookup_signaturesIn_answersOf hu'] at hsig
  refine ⟨u, hu, rfl, sig, ?_, hdrop⟩
  rw [signatures_reportOn h, lookup_signaturesIn_answersOf hu, hsig]

/-- **A step at the end hides no problem of the steps before it.** In a fixed world, whatever was looked
up before, the findings about their calls and references are the same, and an output of theirs can only
come to be used. -/
theorem validate_add_keeps (hsrc : w.source.FailsOnlyToFetch) (hd : d.Coherent w)
    (hd' : d'.Coherent w) (hg : g.IsProper) {draft : StepGraph.Draft}
    (hdraft : ∀ a ∈ draft.args, a.isTellable = true) (h : g.add draft = .ok g') :
    ∃ report report', (validate w.source g d).1 = .ok report ∧
      (validate w.source g' d').1 = .ok report' ∧ Report.Keeps g.labels report report' := by
  obtain ⟨s, -, hsteps⟩ := StepGraph.exists_step_of_add h
  have hg' : g'.IsProper := hg.add hdraft h
  obtain ⟨report, hreport⟩ := exists_validate_eq_ok hsrc hg d
  obtain ⟨report', hreport'⟩ := exists_validate_eq_ok hsrc hg' d'
  have hon := (validate_eq hsrc hd g).symm.trans hreport
  have hon' := (validate_eq hsrc hd' g').symm.trans hreport'
  have hfound := found_of_append hg hg' hsteps hon hon'
  refine ⟨report, report', hreport, hreport', hfound, errors_of_found hfound, ?_, ?_⟩
  · intro l hl i hconsumed hmoved
    obtain ⟨more, hrefs⟩ := exists_refsTo_eq hsteps l i
    rw [unconsumed_iff_refsTo hg hreport] at hconsumed
    rw [unmoved_iff_refsTo hg hreport] at hmoved
    rw [unconsumed_iff_refsTo hg' hreport', unmoved_iff_refsTo hg' hreport', hrefs]
    constructor
    · rintro ⟨hmust, hnil⟩
      exact hconsumed ⟨mustMove_of_append hsteps hon hon' hl hmust,
        (List.append_eq_nil_iff.mp hnil).1⟩
    · rintro ⟨hmust, -, hnone⟩
      have hmust := mustMove_of_append hsteps hon hon' hl hmust
      rw [List.any_append, Bool.or_eq_true, not_or] at hnone
      by_cases hnil : g.refsTo l i = []
      · exact hconsumed ⟨hmust, hnil⟩
      · exact hmoved ⟨hmust, hnil, hnone.1⟩
  · intro l hl i hmoved hconsumed
    obtain ⟨more, hrefs⟩ := exists_refsTo_eq hsteps l i
    rw [unmoved_iff_refsTo hg hreport] at hmoved
    rw [unconsumed_iff_refsTo hg' hreport', hrefs, List.append_eq_nil_iff] at hconsumed
    exact hmoved.2.1 hconsumed.2.1

end World

/-! ## A coin that is looked at -/

/-- A world in which the functions of coins are known, and that a coin can be stored, not dropped. -/
def coinWorld : World where
  function id := .ok ([(withdraw, withdrawSignature), (deposit, depositSignature)].lookup id)
  struct id := .ok (if id = "0x7::coin::Coin" then some ["store"] else none)

/-- A coin is withdrawn. -/
def withdrawal : StepGraph where
  steps := [{ label := "take", function := withdraw, args := [.signer, .literal (.str "5n")] }]

/-- The coin is paid. -/
def payDraft : StepGraph.Draft where
  label := .str "pay"
  function := .field (.str deposit.text)
  args := [.literal (.str "0x2"), .ref ⟨"take", 0, .move⟩]

theorem validate_add_keeps_withdrawal : coinWorld.source.FailsOnlyToFetch ∧
    withdrawal.IsProper ∧ (∀ a ∈ payDraft.args, a.isTellable = true) ∧
    ∃ g', withdrawal.add payDraft = .ok g' ∧
      ∃ report report', (validate coinWorld.source withdrawal ⟨{}, []⟩).1 = .ok report ∧
        (validate coinWorld.source g' (validate coinWorld.source withdrawal ⟨{}, []⟩).2).1 =
          .ok report' ∧ Report.Keeps ["take"] report report' := by
  have hsrc : coinWorld.source.FailsOnlyToFetch :=
    ⟨fun _ _ _ h => (by cases h), fun _ _ _ h => (by cases h)⟩
  have hg : withdrawal.IsProper := by simp [StepGraph.IsProper, withdrawal, Arg.isTellable]
  have hdraft : ∀ a ∈ payDraft.args, a.isTellable = true := by
    simp [payDraft, Arg.isTellable]
  have hd := Desk.coherent_empty coinWorld
  have hd' := hd.of_leads (leads_validate coinWorld.source withdrawal ⟨{}, []⟩)
  obtain ⟨g', hadd⟩ : ∃ g', withdrawal.add payDraft = .ok g' := ⟨_, rfl⟩
  exact ⟨hsrc, hg, hdraft, g', hadd, validate_add_keeps hsrc hd hd' hg hdraft hadd⟩

end MovePlan.Validation
