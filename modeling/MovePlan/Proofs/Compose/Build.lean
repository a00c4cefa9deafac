import MovePlan.Compose.Build
import MovePlan.Proofs.Validation.Agreement
import MovePlan.Proofs.Validation.WellFormed

/-!
# Building refuses or commits

A build that begins a script finishes it. The walk over the references and the resolver agree, so that
no step of a graph without a hard finding fails to resolve, provided that each call gives as many
handles as the signature of its function has return types (`exists_callSteps_eq_ok`). The calls that
are made then are a run of the resolver (`Run.callSteps`), from which it is read off what each call is
made with.
-/

namespace MovePlan

open Move Graph Abi Validation Compose

/-- Whether every call of a function of the graph gives as many handles as the signature that is found
for the function has return types. -/
def Compose.ScriptBuilder.Honours (builder : ScriptBuilder) (g : StepGraph)
    (found : FunctionId → Option Signature) : Prop :=
  ∀ s ∈ g.steps, ∀ sig, found s.function = some sig → ∀ before types args,
    (builder.outputs before ⟨s.function.text, types, args⟩).length = sig.arity

namespace Compose

variable {builder : ScriptBuilder} {script script' : Script}

/-! ## Scripts -/

/-- The requests that add the calls of resolved steps. -/
def additions (calls : List ResolvedCall) : List Script.Request :=
  calls.map fun c => .add (ScriptCall.ofResolved c)

theorem calls_additions (calls : List ResolvedCall) :
    (Script.mk (additions calls)).calls = calls.map ScriptCall.ofResolved := by
  simp [Script.calls, additions, List.filterMap_map, Function.comp_def, Script.Request.call?,
    List.filterMap_eq_map']

/-! ## Every step is called -/

theorem callSteps_cons_of_ok {r r' : Resolver} {s : Step} {rest : List Step} {c : ResolvedCall}
    {calls : List ResolvedCall} (hs : r.resolveStep s = (.ok c, r'))
    (hrest : callSteps builder
      (r'.record s.label (builder.outputs script.calls (.ofResolved c)))
      (script.addCall (.ofResolved c)) rest = (.ok calls, script')) :
    callSteps builder r script (s :: rest) = (.ok (c :: calls), script') := by
  rw [callSteps, hs]
  simp only [hrest]

/-- Steps whose references have no finding are all called, where each call gives as many handles as
the walk counts on. -/
theorem exists_callSteps_eq_ok {arity : String → Option Nat} {outputs : String → Nat}
    {w : RefWalk} {r : Resolver} {steps : List Step} (h : Agrees outputs w r)
    (hp : Passable arity outputs w.declared steps)
    (hb : ∀ s ∈ steps, ∀ before types args,
      (builder.outputs before ⟨s.function.text, types, args⟩).length = outputs s.label)
    (hclean : checkRefsFrom arity steps w = .ok []) :
    ∃ calls script', callSteps builder r script steps = (.ok calls, script') := by
  induction steps generalizing w r script with
  | nil => exact ⟨[], script, rfl⟩
  | cons s rest ih =>
    obtain ⟨here, w₁, later, hhere, hlater, hnil⟩ := checkRefsFrom_cons_eq_ok_iff.mp hclean
    obtain ⟨rfl, rfl⟩ := List.append_eq_nil_iff.mp hnil
    cases hp.args h with
    | @pass w₂ xs r₁ hc hr h₁ hd =>
      obtain rfl : w₁ = w₂ := (Prod.mk.inj (Except.ok.inj (hhere.symm.trans hc))).2
      have hnew : s.label ∉ w₁.declared := by rw [hd]; exact hp.label_not_mem
      have hnext := h₁.record hnew (hb s List.mem_cons_self script.calls s.typeArguments xs)
      obtain ⟨calls, script', hcalls⟩ := ih hnext (by rw [hd]; exact hp.tail)
        (fun t ht => hb t (List.mem_cons_of_mem s ht)) hlater
      exact ⟨_, script', callSteps_cons_of_ok (resolveStep_of_ok hr) hcalls⟩
    -- a reference that cannot be resolved would have a finding
    | fault _ hc =>
      rw [hc] at hhere
      cases hhere

/-- The handles that a script gives for a call, from the calls before it. -/
def Gives (builder : ScriptBuilder) (calls : List ResolvedCall) (_ : Step) (c : ResolvedCall)
    (handles : List Handle) : Prop :=
  handles = builder.outputs (calls.map ScriptCall.ofResolved) (.ofResolved c)

end Compose

/-- Steps that are called go on a run, and each call is one more request of the script. -/
theorem Run.callSteps {builder : ScriptBuilder} {signer : Int} {done steps : List Step}
    {calls later : List ResolvedCall} {outputs : List (List Handle)} {r : Resolver}
    {script' : Script} (run : Run signer (Gives builder) done calls outputs r)
    (h : Compose.callSteps builder r ⟨additions calls⟩ steps = (.ok later, script')) :
    script'.requests = additions (calls ++ later) ∧
      ∃ added r', Run signer (Gives builder) (done ++ steps) (calls ++ later)
        (outputs ++ added) r' := by
  induction steps generalizing done calls later outputs r with
  | nil =>
    cases h
    exact ⟨by simp, [], r, by simpa using run⟩
  | cons s rest ih =>
    rw [Compose.callSteps] at h
    split at h
    · cases h
    · next c r₁ hs =>
      have hscript : Script.addCall ⟨additions calls⟩ (.ofResolved c) =
          ⟨additions (calls ++ [c])⟩ := by
        simp [Script.addCall, additions]
      simp only [calls_additions, hscript] at h
      split at h
      · cases h
      · next rest' script'' hrest =>
        cases h
        obtain ⟨hrequests, added, r', hrun⟩ := ih (run.snoc hs rfl) hrest
        exact ⟨by simpa using hrequests, _ :: added, r', by simpa using hrun⟩

namespace Compose

variable {σ : Type} {src : Source σ} {builder : ScriptBuilder} {g : StepGraph} {d : Desk σ}
  {report : Report}

/-! ## The two ends of a build -/

/-- Whether an attempt ended before a script was begun: the graph has no step, or a report that has
hard findings. -/
inductive Refused (g : StepGraph) (validated : Except Error Report) (a : Attempt σ) : Prop where
  | empty (hsteps : g.steps = []) (hresult : a.result = .error .emptyGraph)
      (hscript : a.script = none)
  | invalid {report : Report} (hvalidated : validated = .ok report) (herrors : report.errors ≠ [])
      (hresult : a.result = .error (.validationFailed report.errors)) (hscript : a.script = none)

/-- Whether an attempt made a transaction: the script was asked for one call after the other and then
to be finished, and each step has its call, with the function, the type arguments and the arguments of
the step, a reference standing for a handle that was given for an earlier step. -/
structure Committed (builder : ScriptBuilder) (g : StepGraph) (signer : Int) (feePayer : Bool)
    (report : Report) (a : Attempt σ) (calls : List ResolvedCall) (outputs : List (List Handle)) :
    Prop where
  ok : report.ok = true
  result : a.result = .ok ⟨⟨calls.map .ofResolved, feePayer⟩, report, calls⟩
  script : a.script = some ⟨additions calls ++ [.finish feePayer]⟩
  length_calls : calls.length = g.steps.length
  length_outputs : outputs.length = g.steps.length
  call_at : ∀ k s, g.steps[k]? = some s → ∃ c handles, calls[k]? = some c ∧
    outputs[k]? = some handles ∧
    handles = builder.outputs ((calls.take k).map .ofResolved) (.ofResolved c) ∧
    c.label = s.label ∧ c.function = s.function ∧ c.typeArguments = s.typeArguments ∧
    List.Forall₂ (Arg.StandsFor signer (ProvidedBefore g.steps outputs k)) s.args c.args

/-- A graph whose report is in order is called to the end. -/
theorem exists_callSteps_of_ok (hsrc : src.FailsOnlyToFetch) (hg : g.IsProper)
    (hd : g.IsDecodable) (hb : builder.Honours g (foundFor src g d))
    (h : (validate src g d).1 = .ok report) (hok : report.ok = true) (signer : Int) :
    ∃ calls script', callSteps builder { signer } ⟨additions []⟩ g.steps = (.ok calls, script') := by
  refine exists_callSteps_eq_ok (.nil _ signer) (passable_of_graph hg hd report.signatures)
    (fun s hs before types args => ?_) (checkRefs_of_ok hg h hok)
  obtain ⟨sig, hsig, -⟩ := ((ok_validate_iff hsrc hg h).mp hok).calls s hs
  obtain ⟨flags, hflags⟩ := exists_lookup_signatures_eq hsrc h hs
  rw [hb s hs sig hsig, arityIn_label hs, hflags, hsig]
  rfl

theorem build_eq (hne : g.steps ≠ []) (h : (validate src g d).1 = .ok report) (signer : Int)
    (feePayer : Bool) :
    build src builder g signer feePayer d =
      if report.ok then
        ⟨(assemble builder g signer feePayer report).1, (validate src g d).2,
          some (assemble builder g signer feePayer report).2⟩
      else ⟨.error (.validationFailed report.errors), (validate src g d).2, none⟩ := by
  rw [build, if_neg (by simpa using hne)]
  generalize validate src g d = validated at h ⊢
  obtain ⟨_, d'⟩ := validated
  cases h
  cases hok : report.ok <;> simp [hok]

theorem committed_of_ok (hsrc : src.FailsOnlyToFetch) (hg : g.IsProper) (hd : g.IsDecodable)
    (hb : builder.Honours g (foundFor src g d)) (hne : g.steps ≠ [])
    (h : (validate src g d).1 = .ok report) (hok : report.ok = true) (signer : Int)
    (feePayer : Bool) :
    ∃ calls outputs, Committed builder g signer feePayer report
      (build src builder g signer feePayer d) calls outputs := by
  obtain ⟨calls, script', hcalls⟩ := exists_callSteps_of_ok hsrc hg hd hb h hok signer
  have hstart : Run signer (Gives builder) [] [] [] { signer } := .nil
  obtain ⟨hrequests, outputs, r, run⟩ := hstart.callSteps hcalls
  have hscript : script' = ⟨additions calls⟩ := by
    cases script'
    simpa using hrequests
  have hassemble : assemble builder g signer feePayer report =
      (.ok ⟨⟨calls.map .ofResolved, feePayer⟩, report, calls⟩,
        ⟨additions calls ++ [.finish feePayer]⟩) := by
    have hbegun : callSteps builder { signer } {} g.steps = (.ok calls, script') := hcalls
    rw [assemble, hbegun, hscript]
    simp only [Script.finish, calls_additions]
  rw [build_eq hne h, if_pos hok, hassemble]
  refine ⟨calls, outputs, hok, rfl, rfl, run.length_calls, run.length_outputs, fun k s hk => ?_⟩
  exact run.call_at g.nodup_labels hk

/-- **A build refuses or commits.** Either no script is begun, because the graph is empty or has hard
findings; or one is, and it is asked for every call of the graph in order and then finished. -/
theorem build_refuses_or_commits (hsrc : src.FailsOnlyToFetch) (hg : g.IsProper)
    (hd : g.IsDecodable) (hb : builder.Honours g (foundFor src g d)) (signer : Int)
    (feePayer : Bool) :
    Refused g (validate src g d).1 (build src builder g signer feePayer d) ∨
      ∃ report calls outputs, (validate src g d).1 = .ok report ∧
        Committed builder g signer feePayer report (build src builder g signer feePayer d) calls
          outputs := by
  obtain ⟨report, h⟩ := exists_validate_eq_ok hsrc hg d
  by_cases hne : g.steps = []
  · refine Or.inl (.empty hne ?_ ?_) <;> simp [build, hne]
  cases hok : report.ok with
  | true =>
    obtain ⟨calls, outputs, hcommitted⟩ :=
      committed_of_ok hsrc hg hd hb hne h hok signer feePayer
    exact Or.inr ⟨report, calls, outputs, h, hcommitted⟩
  | false =>
    have herrors : report.errors ≠ [] := by simpa [Report.ok] using hok
    rw [build_eq hne h, if_neg (by simp [hok])]
    exact Or.inl (.invalid h herrors rfl rfl)

/-! ## The payment -/

/-- A builder whose withdrawals give one coin; other calls give nothing. -/
def coinBuilder : ScriptBuilder where
  outputs before c := if c.function = withdraw.text then [⟨before.length, 0, .move⟩] else []

theorem honours_coinBuilder : coinBuilder.Honours payment (foundFor coinSource payment ⟨{}, ()⟩) := by
  rw [funext foundFor_payment]
  simp only [ScriptBuilder.Honours, payment, List.forall_mem_cons]
  refine ⟨fun sig hsig before types args => ?_, fun sig hsig before types args => ?_, by simp⟩
  · obtain rfl : withdrawSignature = sig := Option.some.inj hsig
    rfl
  · obtain rfl : depositSignature = sig := Option.some.inj hsig
    rfl

theorem build_refuses_or_commits_payment :
    coinSource.FailsOnlyToFetch ∧ payment.IsProper ∧ payment.IsDecodable ∧
      coinBuilder.Honours payment (foundFor coinSource payment ⟨{}, ()⟩) ∧
      ∃ report calls outputs, Committed coinBuilder payment 0 true report
        (build coinSource coinBuilder payment 0 true ⟨{}, ()⟩) calls outputs := by
  refine ⟨failsOnlyToFetch_coinSource, isProper_payment, isDecodable_payment,
    honours_coinBuilder, ?_⟩
  rcases build_refuses_or_commits failsOnlyToFetch_coinSource isProper_payment
    isDecodable_payment honours_coinBuilder 0 true with hrefused | hcommitted
  · exfalso
    cases hrefused with
    | empty hsteps => cases hsteps
    | invalid h herrors =>
      have hok := (ok_validate_iff failsOnlyToFetch_coinSource isProper_payment h).mpr
        wellFormed_payment
      exact herrors (by simpa [Report.ok] using hok)
  · obtain ⟨report, calls, outputs, -, hcommitted⟩ := hcommitted
    exact ⟨report, calls, outputs, hcommitted⟩

end Compose

end MovePlan
