import MovePlan.Compose.Session
import MovePlan.Proofs.Compose.Build
import MovePlan.Proofs.Flow.Run
import MovePlan.Proofs.Validation.Linearity

/-!
# A composition and a dry run of one call

A graph is composed to one transaction, while a flow tries its calls one after the other. Each of the
two takes its own snapshot, reads the response by its own reading, and puts the balances it finds on
top of those it knows. Where a flow has one call only, both are brought back to what a response says
to someone with the balances of a snapshot (`deltasShown`), so that on the same response they tell the
same.
-/

namespace MovePlan

open Move Abi Validation Simulation Tracking Diagnosis Numeric

/-- What a response says to an owner whose balances are read before: its outcome, and how it changes
the balances. -/
def Tracking.deltasShown (reader : BalanceReader) (owner : String) (tokens : List Token)
    (response : Json) : Except Error (Outcome × List Delta) := do
  let before ← capture reader owner tokens
  let o ← Outcome.ofResponse response
  let shown ← extractBalances o tokens owner
  let deltas ← deltasOf before.balances (before.balances.overlay shown) tokens
  return (o, deltas)

theorem Tracking.deltasShown_eq_ok_iff {reader : BalanceReader} {owner : String}
    {tokens : List Token} {response : Json} {o : Outcome} {deltas : List Delta} :
    deltasShown reader owner tokens response = .ok (o, deltas) ↔
      ∃ before shown, capture reader owner tokens = .ok before ∧
        Outcome.ofResponse response = .ok o ∧ extractBalances o tokens owner = .ok shown ∧
        deltasOf before.balances (before.balances.overlay shown) tokens = .ok deltas := by
  simp only [deltasShown, Error.bind_eq_ok_iff]
  constructor
  · rintro ⟨before, hbefore, o', ho, shown, hshown, deltas', hdeltas, h⟩
    obtain ⟨rfl, rfl⟩ := Prod.mk.inj (Except.ok.inj h)
    exact ⟨before, shown, hbefore, ho, hshown, hdeltas⟩
  · rintro ⟨before, shown, hbefore, ho, hshown, hdeltas⟩
    exact ⟨before, hbefore, o, ho, shown, hshown, deltas, hdeltas, rfl⟩

theorem Tracking.deltasOf_of_diffSince {before : Snapshot} {after : Balances} {tokens : List Token}
    {vault : Option VaultTransition} {diff : Diff}
    (h : diffSince before after tokens vault = .ok diff) :
    deltasOf before.balances after tokens = .ok diff.deltas := by
  obtain ⟨deltas, hdeltas, h⟩ := Error.bind_eq_ok_iff.1 h
  obtain rfl := Except.ok.inj h
  exact hdeltas

/-! ## The composition -/

namespace Compose

variable {σ : Type} {p : Services σ} {s : Session σ} {feePayer : Bool} {composed : Composed}
  {b : Built} {reader : BalanceReader} {response : Json}

/-- What a composition says of an outcome. -/
structure Composed.Tells (c : Composed) (o : Outcome) : Prop where
  success : c.simulation.success = o.success
  status : c.simulation.status = o.status
  gasUsed : c.simulation.gasUsed = o.gasUsed
  events : c.simulation.events = o.parsedEvents
  errors : diagnoseOutcome o.success o.status .null = .ok c.errors

theorem tells_of_summarize {o : Outcome} {registry : Registry} {position : Option Position}
    {summary : Summary} (h : summarize o registry position = .ok summary) :
    summary.success = o.success ∧ summary.status = o.status ∧ summary.gasUsed = o.gasUsed ∧
      summary.events = o.parsedEvents := by
  obtain ⟨writes, -, h⟩ := Error.bind_eq_ok_iff.1 h
  obtain ⟨gasCost, -, h⟩ := Error.bind_eq_ok_iff.1 h
  obtain rfl := Except.ok.inj h
  exact ⟨rfl, rfl, rfl, rfl⟩

theorem composedOf_eq_ok_iff {labels : List String} {simulation : Summary} {diff : Option Diff} :
    Session.composedOf labels b simulation diff = .ok composed ↔
      ∃ errors, diagnoseOutcome simulation.success simulation.status .null = .ok errors ∧
        hasText simulation.gasUsed = true ∧
        { simulation, transaction := b.transaction, diff, errors, warnings := b.report.warnings
          labels } = composed := by
  simp only [Session.composedOf, Error.bind_eq_ok_iff, discard_writeInt_eq_ok_iff, pure, Except.pure,
    Except.ok.injEq, exists_const]

/-- What is composed with a reader of balances is what the response says. -/
theorem compose_eq_ok (h : (Session.compose (some reader) s b response).1 = .ok composed) :
    ∃ o diff, composed.transaction = b.transaction ∧ composed.diff = some diff ∧ composed.Tells o ∧
      deltasShown reader s.owner s.tokens response = .ok (o, diff.deltas) := by
  rw [Session.compose] at h
  dsimp only at h
  split at h
  next => cases h
  next o simulation hstart =>
    obtain ⟨o', ho, hstart⟩ := Error.bind_eq_ok_iff.1 hstart
    obtain ⟨simulation', hsimulation, hstart⟩ := Error.bind_eq_ok_iff.1 hstart
    obtain ⟨rfl, rfl⟩ := Prod.mk.inj (Except.ok.inj hstart)
    obtain ⟨diff, hdiff, h⟩ := Error.bind_eq_ok_iff.1 h
    obtain ⟨before, hbefore, hdiff⟩ := Error.bind_eq_ok_iff.1 hdiff
    obtain ⟨shown, hshown, hdiff⟩ := Error.bind_eq_ok_iff.1 hdiff
    obtain ⟨errors, herrors, -, rfl⟩ := composedOf_eq_ok_iff.1 h
    obtain ⟨hsuccess, hstatus, hgas, hevents⟩ := tells_of_summarize hsimulation
    rw [hsuccess, hstatus] at herrors
    exact ⟨o', diff, rfl, rfl, ⟨hsuccess, hstatus, hgas, hevents, herrors⟩,
      deltasShown_eq_ok_iff.2 ⟨before, shown, hbefore, ho, hshown, deltasOf_of_diffSince hdiff⟩⟩

/-- A build leaves the session as it was, but for what was looked up, the script that was begun and the
journal. -/
theorem exists_build_eq (p : Services σ) (feePayer : Bool) (s : Session σ) :
    ∃ desk scripts entries, (s.build p feePayer).2 = { s with desk, scripts, entries } := by
  rw [Session.build]
  split <;> exact ⟨_, _, _, rfl⟩

/-- **A composition that returns says what the response says** to the transaction that it built, if
there are tokens to read, an owner, and a reader to read them with. -/
theorem tells_of_simulate (h : (s.simulate p feePayer).1 = .ok composed)
    (hreader : s.activeReader p = some reader) :
    ∃ response o diff, p.simulator s.simulated.length composed.transaction = .ok response ∧
      composed.diff = some diff ∧ composed.Tells o ∧
      deltasShown reader s.owner s.tokens response = .ok (o, diff.deltas) := by
  obtain ⟨desk, scripts, entries, hafter⟩ := exists_build_eq p feePayer s
  rw [Session.simulate] at h
  generalize s.build p feePayer = out at h hafter
  obtain ⟨built, s'⟩ := out
  obtain rfl : s' = { s with desk, scripts, entries } := hafter
  cases built with
  | error e => cases h
  | ok b =>
    dsimp only at h
    split at h
    next => cases h
    next response hresponse =>
      -- the session has gone on since, but its owner, tokens and services are the same
      have hactive : Session.activeReader p
          { s with desk, scripts, entries, simulated := s.simulated ++ [b.transaction] } = some reader :=
        hreader
      rw [hactive] at h
      generalize hout : Session.compose (some reader)
        { s with desk, scripts, entries, simulated := s.simulated ++ [b.transaction] } b response = out at h
      obtain ⟨result, readings⟩ := out
      cases result with
      | error e => cases h
      | ok c =>
        obtain rfl := Except.ok.inj h
        obtain ⟨o, diff, htransaction, hdiff, htells, hshown⟩ := compose_eq_ok (by rw [hout])
        exact ⟨response, o, diff, htransaction ▸ hresponse, hdiff, htells, hshown⟩

/-- A composition returns whose graph builds and whose response can be read. -/
theorem exists_simulate_eq_ok {o : Outcome} {summary : Summary} {diff : Diff}
    (hb : (s.build p feePayer).1 = .ok b)
    (hresponse : p.simulator s.simulated.length b.transaction = .ok response)
    (hreader : s.activeReader p = some reader) (ho : Outcome.ofResponse response = .ok o)
    (hsummary : summarize o (Registry.ofTokens s.tokens) none = .ok summary)
    (hdiff : Session.balanceDiff reader s.owner s.tokens o = .ok diff) {errors : List Diagnosis}
    (herrors : diagnoseOutcome summary.success summary.status .null = .ok errors)
    (hgas : hasText summary.gasUsed = true) :
    ∃ composed, (s.simulate p feePayer).1 = .ok composed := by
  obtain ⟨desk, scripts, entries, hafter⟩ := exists_build_eq p feePayer s
  rw [Session.simulate]
  generalize s.build p feePayer = out at hb hafter ⊢
  obtain ⟨built, s'⟩ := out
  obtain rfl : built = .ok b := hb
  obtain rfl : s' = { s with desk, scripts, entries } := hafter
  have hactive : Session.activeReader p
      { s with desk, scripts, entries, simulated := s.simulated ++ [b.transaction] } = some reader := hreader
  have hcomposed : Session.composedOf s.graph.labels b summary (some diff) = .ok _ :=
    composedOf_eq_ok_iff.2 ⟨errors, herrors, hgas, rfl⟩
  simp [hresponse, hactive, Session.compose, ho, hsummary, hdiff, hcomposed, bind, Except.bind, pure,
    Except.pure]

end Compose

/-! ## The dry run of one call -/

namespace Flow

variable {p : Services} {f : Flow} {report : Report}

/-- What the result of a call says of an outcome. -/
structure StageResult.Tells (r : StageResult) (o : Outcome) : Prop where
  success : r.success = o.success
  status : r.status = o.status
  gasUsed : r.gasUsed = o.gasUsed
  events : r.events = o.parsedEvents

theorem tells_of_resultOf {s : Stage} {before after : Carried} {response : Json}
    {duration : Binary64} {r : StageResult}
    (h : resultOf f s before response duration = .ok (r, after)) :
    ∃ o shown, Outcome.ofResponse response = .ok o ∧
      extractBalances o f.tokens f.owner = .ok shown ∧
      after.balances = before.balances.overlay shown ∧
      deltasOf before.balances after.balances f.tokens = .ok r.deltas ∧ r.Tells o := by
  obtain ⟨o, ho, a, ha, deltas, hdeltas, verdicts, -, gasCost, -, -, rfl, rfl⟩ :=
    resultOf_eq_ok_iff.1 h
  obtain ⟨hevents, hshown, -⟩ := analyze_eq_ok ha
  exact ⟨o, a.balances, ho, hshown, rfl, hdeltas, rfl, rfl, rfl, hevents⟩

/-- **A dry run of one call that returns says what the response says**, in its only step and in the
difference from end to end. -/
theorem tells_of_dryRun {stage : Stage} (h : (dryRun p f).result = .ok report)
    (hstages : f.stages = [stage]) :
    ∃ response o r, p.simulator 0 stage.payload = .ok response ∧ report.results = [r] ∧ r.Tells o ∧
      r.deltas = report.diff.deltas ∧ r.errors = .ok report.errors ∧
      deltasShown p.reader f.owner f.tokens response = .ok (o, report.diff.deltas) := by
  obtain ⟨initial, results, last, hinitial, -, hresults, hreport⟩ := dryRun_eq_ok_iff.1 h
  obtain ⟨overall, hoverall, errors, herrors, -, rfl⟩ :=
    reportOn_eq_ok_iff.1 (finish_eq_ok_iff.1 hreport).1
  rw [hstages] at hresults
  obtain ⟨r, after, later, hstage, hlater, rfl⟩ := runStages_cons_eq_ok_iff.1 hresults
  obtain ⟨rfl, rfl⟩ := Prod.mk.inj (Except.ok.inj hlater)
  obtain ⟨response, hresponse, duration, -, hcall⟩ :=
    call_eq_ok_iff.1 (runStage_eq_ok_iff.1 hstage).1
  obtain ⟨o, shown, ho, hshown, hafter, hdeltas, htells⟩ := tells_of_resultOf hcall
  obtain ⟨first, hfirst, herrors⟩ := Error.bind_eq_ok_iff.1 herrors
  obtain rfl : first = errors := by simpa [errorsOf, bind, Except.bind, pure, Except.pure] using herrors
  rw [hoverall] at hdeltas
  rw [hafter] at hoverall
  exact ⟨response, o, r, hresponse, rfl, htells, (Except.ok.inj hdeltas).symm, hfirst,
    deltasShown_eq_ok_iff.2 ⟨initial, shown, hinitial, ho, hshown, hoverall⟩⟩

end Flow

/-! ## The same response -/

/-- Failures with one status have diagnoses with the same codes, whatever step they are of. -/
theorem Diagnosis.codes_diagnose {status : String} {step step' : Json} {ds ds' : List Diagnosis}
    (h : diagnose status step = .ok ds) (h' : diagnose status step' = .ok ds') :
    ds.map Diagnosis.code = ds'.map Diagnosis.code := by
  unfold diagnose diagnoseFailure at h h'
  split at h
  next hnone =>
    rw [if_pos hnone] at h'
    rw [← Except.ok.inj h, ← Except.ok.inj h']
  next hsome =>
    rw [if_neg hsome] at h'
    cases habort : parseAbort status with
    | error e =>
      rw [habort] at h
      cases h
    | ok abort =>
      rw [habort] at h h'
      rw [← Except.ok.inj h, ← Except.ok.inj h']
      -- the rules look at the status alone
      simp only [List.map_cons, List.map_nil, explain]
      cases rules.find? fun r => r.pattern.holds status.toList <;> rfl

/-- Outcomes with one status have diagnoses with the same codes, whatever step they are of. -/
theorem Diagnosis.codes_diagnoseOutcome {success : Bool} {status : String} {step step' : Json}
    {ds ds' : List Diagnosis} (h : diagnoseOutcome success status step = .ok ds)
    (h' : diagnoseOutcome success status step' = .ok ds') :
    ds.map Diagnosis.code = ds'.map Diagnosis.code := by
  cases success with
  | true => rw [← Except.ok.inj h, ← Except.ok.inj h']
  | false => exact codes_diagnose h h'

namespace Compose

variable {σ : Type} {p : Services σ} {s : Session σ} {feePayer : Bool} {composed : Composed}
  {q : Flow.Services} {f : Flow} {stage : Flow.Stage} {report : Flow.Report}

/-- Whether a session and a flow with one call are about the same owner and the same tokens, read
balances with the same reader, and are given the same response, the one to a transaction, the other
to its call. -/
structure SameTask (p : Services σ) (s : Session σ) (t : Transaction) (q : Flow.Services) (f : Flow)
    (stage : Flow.Stage) : Prop where
  owner : s.owner = f.owner
  owner_ne : s.owner ≠ ""
  tokens : s.tokens = f.tokens
  tokens_ne : s.tokens ≠ []
  reader : p.reader = some q.reader
  stages : f.stages = [stage]
  response : p.simulator s.simulated.length t = q.simulator 0 stage.payload

theorem SameTask.activeReader {t : Transaction} (h : SameTask p s t q f stage) :
    s.activeReader p = some q.reader := by
  simp [Session.activeReader, h.owner_ne, h.tokens_ne, h.reader]

/-- Whether a composition and a report on a flow say the same, the report of its only call and as a
whole. -/
structure SaysTheSame (tokens : List Token) (composed : Composed) (report : Flow.Report)
    (r : Flow.StageResult) : Prop where
  only : report.results = [r]
  /-- There is one change for each token, in order. -/
  deltas : ∃ diff, composed.diff = some diff ∧ diff.deltas = report.diff.deltas ∧
    diff.deltas = r.deltas ∧ diff.deltas.map Delta.token = tokens
  success : composed.simulation.success = r.success ∧ composed.simulation.success = report.success
  status : composed.simulation.status = r.status
  gasUsed : composed.simulation.gasUsed = r.gasUsed ∧
    composed.simulation.gasUsed = report.gasUsed
  events : composed.simulation.events = r.events
  codes : composed.errors.map Diagnosis.code = report.errors.map Diagnosis.code

/-- **A composition and a dry run of one call say the same** on the same response, whether or not the
flow keeps track of a position. -/
theorem simulate_says_like_dryRun (h : SameTask p s composed.transaction q f stage)
    (hc : (s.simulate p feePayer).1 = .ok composed) (hd : (Flow.dryRun q f).result = .ok report) :
    ∃ r, SaysTheSame s.tokens composed report r := by
  obtain ⟨response, o, diff, hresponse, hdiff, hcomposed, hshown⟩ :=
    tells_of_simulate hc h.activeReader
  obtain ⟨response', o', r, hresponse', honly, hr, hdeltas, herrors, hshown'⟩ :=
    Flow.tells_of_dryRun hd h.stages
  -- one response to both, so what it says is the same
  have hsame : response = response' := by
    rw [h.response, hresponse'] at hresponse
    exact (Except.ok.inj hresponse).symm
  subst hsame
  rw [← h.owner, ← h.tokens, hshown] at hshown'
  obtain ⟨rfl, hall⟩ := Prod.mk.inj (Except.ok.inj hshown')
  obtain ⟨before, shown, -, -, -, hof⟩ := deltasShown_eq_ok_iff.1 hshown
  refine ⟨r, honly, ⟨diff, hdiff, hall, hall.trans hdeltas.symm, tokens_of_deltasOf hof⟩,
    ?_, hcomposed.status.trans hr.status.symm, ?_, hcomposed.events.trans hr.events.symm, ?_⟩
  · rw [hcomposed.success, hr.success]
    simp [Flow.Report.success, honly, hr.success]
  · rw [hcomposed.gasUsed, hr.gasUsed]
    simp [Flow.Report.gasUsed, honly, hr.gasUsed]
  · rw [Flow.StageResult.errors, hr.success, hr.status] at herrors
    exact codes_diagnoseOutcome hcomposed.errors herrors

/-! ## A payment that runs out of gas -/

section

open Flow

/-- A session that composes the payment, and keeps track of the payer's balance. -/
def shopper : Session Unit where
  desk := ⟨{}, ()⟩
  graph := payment
  tokens := [usdc]
  owner := repaying.owner

/-- The response to a transaction that runs out of gas and still shows the payer's store. -/
def outOfGas : Json :=
  .obj [("success", .bool false), ("vm_status", .str "OUT_OF_GAS"), ("gas_used", .str "5"),
    ("changes", .arr [.obj (debtWrite "100"), .obj purseWrite])]

def shop : Services Unit where
  source := coinSource
  builder := coinBuilder
  simulator _ _ := .ok outOfGas
  reader := some Flow.chain.reader

/-- The payment as a single call. -/
def pay : Stage where
  label := .str "pay"
  description := .str ""
  payload := { function := .str "0x7::coin::pay" }

def paying : MovePlan.Flow where
  name := .str "pay"
  owner := repaying.owner
  tokens := [usdc]
  stages := [pay]

def till : Flow.Services where
  simulator _ _ := .ok outOfGas
  clock place := .int place
  reader := Flow.chain.reader
  isLogged := false

theorem exists_build_shopper : ∃ b, (shopper.build shop true).1 = .ok b := by
  obtain ⟨built, hbuilt⟩ : ∃ built, (assemble coinBuilder payment 0 true ⟨[], [
      (withdraw.text, withdrawSignature.withDroppable [some false]),
      (deposit.text, depositSignature)]⟩).1 = .ok built := ⟨_, rfl⟩
  have hresult : (Compose.build shop.source shop.builder shopper.graph shopper.signer true
      shopper.desk).result = .ok built := by
    have hne : payment.steps ≠ [] := List.cons_ne_nil _ _
    exact (congrArg Attempt.result (build_eq hne validate_payment 0 true)).trans hbuilt
  refine ⟨built, ?_⟩
  rw [Session.build]
  dsimp only
  rw [hresult]

theorem exists_composed_shopper : ∃ composed, (shopper.simulate shop true).1 = .ok composed := by
  obtain ⟨o, ho, hchanges, summary, hsummary, hsuccess, hstatus, hgas⟩ :
      ∃ o, Outcome.ofResponse outOfGas = .ok o ∧ o.changes = [debtWrite "100", purseWrite] ∧
        ∃ summary, summarize o (Registry.ofTokens [usdc]) none = .ok summary ∧
          summary.success = false ∧ summary.status = "OUT_OF_GAS" ∧ summary.gasUsed = 5 :=
    ⟨_, rfl, rfl, _, rfl, rfl, rfl, rfl⟩
  have hinitial : capture Flow.chain.reader repaying.owner [usdc] =
      .ok { owner := "0xa11ce", balances := [("0xc1", 100)] } := rfl
  have hdiff : Session.balanceDiff Flow.chain.reader repaying.owner [usdc] o =
      .ok ⟨"0xa11ce", [⟨usdc, 100, 70, -30, "-0.000030"⟩], none⟩ :=
    Error.bind_eq_ok_iff.2 ⟨_, hinitial,
      Error.bind_eq_ok_iff.2 ⟨_, extractBalances_first hchanges, rfl⟩⟩
  obtain ⟨b, hb⟩ := exists_build_shopper
  have herrors : diagnoseOutcome summary.success summary.status .null =
      .ok [explain "OUT_OF_GAS" .null none] := by
    rw [hsuccess, hstatus, diagnoseOutcome_outOfGas]
  exact exists_simulate_eq_ok hb rfl rfl ho hsummary hdiff herrors (by rw [hgas]; decide)

theorem exists_result_pay (duration : Binary64) : ∃ r,
    resultOf paying pay ⟨[("0xc1", 100)], none⟩ outOfGas duration =
      .ok (r, ⟨[("0xc1", 70)], none⟩) ∧
    r.success = false ∧ r.status = "OUT_OF_GAS" ∧ r.gasUsed = 5 := by
  obtain ⟨o, ho, hchanges, hsuccess, hstatus, hgas, gasCost, hcost⟩ :
      ∃ o, Outcome.ofResponse outOfGas = .ok o ∧ o.changes = [debtWrite "100", purseWrite] ∧
        o.success = false ∧ o.status = "OUT_OF_GAS" ∧ o.gasUsed = 5 ∧ ∃ x, o.gasCost = .ok x :=
    ⟨_, rfl, rfl, rfl, rfl, rfl, _, rfl⟩
  have hdeltas : deltasOf [("0xc1", 100)] [("0xc1", 70)] paying.tokens =
      .ok [⟨usdc, 100, 70, -30, "-0.000030"⟩] := rfl
  have hanalysis := analyze_of_untracked (extractBalances_first hchanges)
  have htext : hasText o.gasUsed = true := by rw [hgas]; decide
  exact ⟨_, resultOf_eq_ok_iff.2
    ⟨o, ho, _, hanalysis, _, hdeltas, _, rfl, gasCost, hcost, htext, rfl, rfl⟩, hsuccess, hstatus, hgas⟩

theorem exists_report_paying : ∃ report, (dryRun till paying).result = .ok report := by
  have hinitial : capture till.reader paying.owner paying.tokens =
      .ok { owner := "0xa11ce", balances := [("0xc1", 100)] } := rfl
  obtain ⟨d, hd⟩ : ∃ d, milliseconds (till.clock 0) (till.clock 1) = .ok d := ⟨_, rfl⟩
  obtain ⟨r, hr, hsuccess, hstatus, hgas⟩ := exists_result_pay d
  have hcall : till.call paying 0 ⟨[("0xc1", 100)], none⟩ pay = .ok (r, ⟨[("0xc1", 70)], none⟩) :=
    call_eq_ok_iff.2 ⟨outOfGas, rfl, d, hd, hr⟩
  have hall : (runStages till paying 0 ⟨[("0xc1", 100)], none⟩ paying.stages).result =
      .ok ([r], ⟨[("0xc1", 70)], none⟩) :=
    runStages_cons_eq_ok_iff.2 ⟨r, _, [], runStage_eq_ok_iff.2 ⟨hcall, rfl⟩, rfl, rfl⟩
  have hone : r.errors = .ok [explain "OUT_OF_GAS" r.label none] := by
    rw [StageResult.errors, hsuccess, hstatus, diagnoseOutcome_outOfGas]
  have herrors : errorsOf [r] = .ok [explain "OUT_OF_GAS" r.label none] := by
    rw [errorsOf, hone]
    rfl
  have hdeltas : deltasOf [("0xc1", 100)] [("0xc1", 70)] paying.tokens =
      .ok [⟨usdc, 100, 70, -30, "-0.000030"⟩] := rfl
  let report : Flow.Report := ⟨paying, { owner := "0xa11ce", balances := [("0xc1", 100)] }, [r],
    ⟨"0xa11ce", [⟨usdc, 100, 70, -30, "-0.000030"⟩], none⟩, [explain "OUT_OF_GAS" r.label none]⟩
  have htext : hasText report.gasUsed = true := by
    have hsum : report.gasUsed = 0 + r.gasUsed := rfl
    rw [hsum, hgas]
    decide
  have hreport : reportOn paying report.initial [r] ⟨[("0xc1", 70)], none⟩ = .ok report :=
    reportOn_eq_ok_iff.2 ⟨_, hdeltas, _, herrors, htext, rfl⟩
  exact ⟨report, dryRun_eq_ok_iff.2 ⟨_, _, _, hinitial, rfl, hall, finish_eq_ok_iff.2 ⟨hreport, rfl⟩⟩⟩

theorem simulate_says_like_dryRun_outOfGas : ∃ composed report,
    SameTask shop shopper composed.transaction till paying pay ∧
    (shopper.simulate shop true).1 = .ok composed ∧ (dryRun till paying).result = .ok report ∧
    ∃ r, SaysTheSame shopper.tokens composed report r := by
  obtain ⟨composed, hc⟩ := exists_composed_shopper
  obtain ⟨report, hd⟩ := exists_report_paying
  have howner : shopper.owner ≠ "" := by decide
  have htask : SameTask shop shopper composed.transaction till paying pay :=
    ⟨rfl, howner, rfl, List.cons_ne_nil _ _, rfl, rfl, rfl⟩
  exact ⟨composed, report, htask, hc, hd, simulate_says_like_dryRun htask hc hd⟩

end

end Compose

end MovePlan
