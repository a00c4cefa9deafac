import MovePlan.Proofs.Flow.Events
import MovePlan.Proofs.Tracking.Balances

/-!
# What a dry run carries from call to call

A dry run is opened once. `Simulates` says what one call that went through did: what its result says,
in terms of what its response shows and of what was carried to it, and what it hands on.
`SimulatesAll` puts such calls in a row. A dry run that returns a report is such a row over the whole
flow, between the snapshot that it began with and the differences that it ends with
(`dryRun_eq_ok`).

What is carried is known from the responses alone: for an asset, the balance that the latest response
with one shows, else that of the snapshot; for the position, what the latest response with one shows.
`Carries` says so of what is carried before a call. One call keeps it (`Simulates.carries`), and so
does a row of calls (`SimulatesAll.carries`).
-/

namespace MovePlan.Flow

open Simulation Tracking Numeric

/-! ## What responses show -/

/-- The outcome that the response to the call at a place describes. -/
def Services.outcome (p : Services) (place : Nat) (s : Stage) : Except Error Outcome :=
  p.simulator place s.payload >>= Outcome.ofResponse

/-- What the latest of the first `n` places shows that shows something. -/
def latest? {α : Type} (shown : Nat → Option α) (n : Nat) : Option α :=
  (List.range n).reverse.findSome? shown

theorem latest?_succ {α : Type} (shown : Nat → Option α) (n : Nat) :
    latest? shown (n + 1) = (shown n).or (latest? shown n) := by
  rw [latest?, List.range_succ, List.reverse_append, List.findSome?_append]
  cases hn : shown n <;> simp [hn, latest?]

section

variable (p : Services) (f : Flow)

/-- The response to the call at a place can be read, with the given outcome. -/
structure Reads (place : Nat) (s : Stage) (o : Outcome) : Prop where
  outcome : p.outcome place s = .ok o
  balances : ∃ shown, extractBalances o f.tokens f.owner = .ok shown
  vault : ∀ q, f.position = some q → ∃ shown, extractVault o q = .ok shown

/-- The balance of an asset that the response at a place shows. -/
def shownBalance? (asset : String) (place : Nat) : Option Int := do
  let s ← f.stages[place]?
  let o ← (p.outcome place s).toOption
  let balances ← (extractBalances o f.tokens f.owner).toOption
  balances.get? asset

/-- The position that the response at a place shows; none if no position is tracked. -/
def shownVault? (place : Nat) : Option Vault := do
  let position ← f.position
  let s ← f.stages[place]?
  let o ← (p.outcome place s).toOption
  (extractVault o position).toOption.join

/-- The balance of an asset after the first `n` calls: the one that the latest response shows that
shows one, else that of the snapshot. -/
def held? (initial : Snapshot) (asset : String) (n : Nat) : Option Int :=
  (latest? (shownBalance? p f asset) n).or (initial.balances.get? asset)

/-- What is carried to the call at a place is what is held there, and the position that was shown
last. -/
structure Carries (initial : Snapshot) (place : Nat) (c : Carried) : Prop where
  balances : ∀ asset, c.balances.get? asset = held? p f initial asset place
  vault : c.vault = latest? (shownVault? p f) place

/-- What the call at a place does that goes through: what its result says, and what is carried before
it and after it. -/
structure Simulates (place : Nat) (before : Carried) (s : Stage) (r : StageResult)
    (after : Carried) : Prop where
  label : r.label = s.label
  outcome : ∃ o, Reads p f place s o ∧ r.success = o.success ∧ r.status = o.status ∧
    r.gasUsed = o.gasUsed
  balances : ∀ asset, r.balances.get? asset =
    (shownBalance? p f asset place).or (before.balances.get? asset)
  carried : after.balances = r.balances
  vault : after.vault = (shownVault? p f place).or before.vault
  deltas : deltasOf before.balances r.balances f.tokens = .ok r.deltas
  verdicts : judgeAll r.deltas before.vault after.vault s.expectations = .ok r.verdicts

/-- Calls one after the other that go through, from a place on: each takes what the one before it
hands on. -/
inductive SimulatesAll : Nat → Carried → List Stage → List StageResult → Carried → Prop where
  | nil (place : Nat) (c : Carried) : SimulatesAll place c [] [] c
  | cons {place : Nat} {before after last : Carried} {s : Stage} {r : StageResult}
      {stages : List Stage} {results : List StageResult}
      (call : Simulates p f place before s r after)
      (later : SimulatesAll (place + 1) after stages results last) :
    SimulatesAll place before (s :: stages) (r :: results) last

end

variable {p : Services} {f : Flow}

/-! ## Opening a dry run -/

theorem analyze_eq_ok {o : Outcome} {tokens : List Token} {owner : String}
    {position : Option Position} {a : Analysis} (h : analyze o tokens owner position = .ok a) :
    a.events = o.parsedEvents ∧ extractBalances o tokens owner = .ok a.balances ∧
      (position = none → a.vault = none) ∧
      ∀ q, position = some q → extractVault o q = .ok a.vault := by
  obtain ⟨balances, hbalances, h⟩ := Error.bind_eq_ok_iff.1 h
  cases position with
  | none =>
    obtain rfl := Except.ok.inj h
    exact ⟨rfl, hbalances, fun _ => rfl, by simp⟩
  | some q =>
    obtain ⟨vault, hvault, h⟩ := Error.bind_eq_ok_iff.1 h
    obtain rfl := Except.ok.inj h
    exact ⟨rfl, hbalances, by simp, fun _ hq => Option.some.inj hq ▸ hvault⟩

theorem analyze_of_tracked {o : Outcome} {tokens : List Token} {owner : String} {q : Position}
    {shown : Balances} {vault : Option Vault} (hshown : extractBalances o tokens owner = .ok shown)
    (hvault : extractVault o q = .ok vault) :
    analyze o tokens owner (some q) = .ok ⟨o.parsedEvents, shown, vault⟩ :=
  Error.bind_eq_ok_iff.2 ⟨shown, hshown, Error.bind_eq_ok_iff.2 ⟨vault, hvault, rfl⟩⟩

theorem analyze_of_untracked {o : Outcome} {tokens : List Token} {owner : String}
    {shown : Balances} (hshown : extractBalances o tokens owner = .ok shown) :
    analyze o tokens owner none = .ok ⟨o.parsedEvents, shown, none⟩ :=
  Error.bind_eq_ok_iff.2 ⟨shown, hshown, rfl⟩

/-- A call goes through when its response can be read, its deltas can be shown and its expectations
can be judged. -/
theorem resultOf_eq_ok_iff {s : Stage} {before after : Carried} {response : Json}
    {duration : Binary64} {r : StageResult} :
    resultOf f s before response duration = .ok (r, after) ↔
      ∃ o, Outcome.ofResponse response = .ok o ∧
      ∃ a, analyze o f.tokens f.owner f.position = .ok a ∧
      ∃ deltas, deltasOf before.balances (before.balances.overlay a.balances) f.tokens =
        .ok deltas ∧
      ∃ verdicts, judgeAll deltas before.vault (a.vault.or before.vault) s.expectations =
        .ok verdicts ∧
      ∃ gasCost, o.gasCost = .ok gasCost ∧ hasText o.gasUsed = true ∧
        { label := s.label, description := s.description, success := o.success, status := o.status
          gasUsed := o.gasUsed, gasCost, events := a.events
          balances := before.balances.overlay a.balances, vault := a.vault, deltas, verdicts
          duration } = r ∧
        ⟨before.balances.overlay a.balances, a.vault.or before.vault⟩ = after := by
  simp only [resultOf, Error.bind_eq_ok_iff, discard_writeInt_eq_ok_iff, pure, Except.pure,
    Except.ok.injEq, Prod.mk.injEq, exists_const]

theorem simulates_of_resultOf {place : Nat} {s : Stage} {before after : Carried} {response : Json}
    {duration : Binary64} {r : StageResult} (hs : f.stages[place]? = some s)
    (hresponse : p.simulator place s.payload = .ok response)
    (h : resultOf f s before response duration = .ok (r, after)) :
    Simulates p f place before s r after := by
  obtain ⟨o, ho, a, ha, deltas, hdeltas, verdicts, hverdicts, gasCost, -, -, rfl, rfl⟩ :=
    resultOf_eq_ok_iff.1 h
  obtain ⟨-, hbalances, hnone, hvault⟩ := analyze_eq_ok ha
  have hreads : Reads p f place s o :=
    ⟨Error.bind_eq_ok_iff.2 ⟨response, hresponse, ho⟩, ⟨_, hbalances⟩, fun q hq => ⟨_, hvault q hq⟩⟩
  have hshown : shownVault? p f place = a.vault := by
    cases hq : f.position with
    | none => simp [shownVault?, hq, hnone hq]
    | some q => simp [shownVault?, hs, hreads.outcome, hq, hvault q hq, Except.toOption]
  refine ⟨rfl, ⟨o, hreads, rfl, rfl, rfl⟩, fun asset => ?_, rfl, ?_, hdeltas, hverdicts⟩
  · rw [Balances.get?_overlay (extractBalances_nodup hbalances)]
    simp [shownBalance?, hs, hreads.outcome, hbalances, Except.toOption]
  · rw [hshown]

theorem call_eq_ok_iff {place : Nat} {s : Stage} {before after : Carried} {r : StageResult} :
    p.call f place before s = .ok (r, after) ↔
      ∃ response, p.simulator place s.payload = .ok response ∧
      ∃ duration, milliseconds (p.clock (2 * place)) (p.clock (2 * place + 1)) = .ok duration ∧
        resultOf f s before response duration = .ok (r, after) := by
  simp only [Services.call, Error.bind_eq_ok_iff]

/-- A stage goes through when its call does and the journal can take what there is to be written. -/
theorem runStage_eq_ok_iff {place : Nat} {s : Stage} {before after : Carried} {r : StageResult} :
    (runStage p f place before s).1 = .ok (r, after) ↔
      p.call f place before s = .ok (r, after) ∧ (p.record (stageEntries r)).2 = .ok () := by
  rw [runStage]
  cases p.call f place before s with
  | error e => simp
  | ok called =>
    obtain ⟨r', after'⟩ := called
    cases hw : (p.record (stageEntries r')).2 with
    | error e =>
      simp only [hw, Except.map, reduceCtorEq, false_iff, not_and, Except.ok.injEq, Prod.mk.injEq]
      rintro ⟨rfl, rfl⟩ h
      rw [hw] at h
      cases h
    | ok =>
      simp only [hw, Except.map, Except.ok.injEq, Prod.mk.injEq, iff_self_and]
      rintro ⟨rfl, rfl⟩
      exact hw

theorem simulates_of_call {place : Nat} {s : Stage} {before after : Carried} {r : StageResult}
    (hs : f.stages[place]? = some s) (h : p.call f place before s = .ok (r, after)) :
    Simulates p f place before s r after := by
  obtain ⟨response, hresponse, duration, -, hcall⟩ := call_eq_ok_iff.1 h
  exact simulates_of_resultOf hs hresponse hcall

/-- A row of calls goes through when its first call does and the later ones do after it. -/
theorem runStages_cons_eq_ok_iff {place : Nat} {before last : Carried} {s : Stage}
    {rest : List Stage} {results : List StageResult} :
    (runStages p f place before (s :: rest)).result = .ok (results, last) ↔
      ∃ r after later, (runStage p f place before s).1 = .ok (r, after) ∧
        (runStages p f (place + 1) after rest).result = .ok (later, last) ∧
        results = r :: later := by
  rw [runStages]
  constructor
  · intro h
    split at h
    next => cases h
    next r after entries hcall =>
      cases hlater : (runStages p f (place + 1) after rest).result with
      | error e => simp [hlater, Except.map] at h
      | ok later =>
        simp only [hlater, Except.map] at h
        obtain ⟨rfl, rfl⟩ := Prod.ext_iff.1 (Except.ok.inj h)
        exact ⟨r, after, later.1, congrArg Prod.fst hcall, hlater, rfl⟩
  · rintro ⟨r, after, later, hcall, hlater, rfl⟩
    obtain ⟨entries, hentries⟩ : ∃ entries, runStage p f place before s = (.ok (r, after), entries) :=
      ⟨_, Prod.ext hcall rfl⟩
    simp [hentries, hlater, Except.map]

/-- Stages of the flow from a place on that go through are a row of calls. -/
theorem simulatesAll_of_runStages {place : Nat} {before last : Carried} {stages : List Stage}
    {results : List StageResult} (hstages : stages <+: f.stages.drop place)
    (h : (runStages p f place before stages).result = .ok (results, last)) :
    SimulatesAll p f place before stages results last := by
  induction stages generalizing place before results with
  | nil =>
    obtain ⟨rfl, rfl⟩ := Prod.ext_iff.1 (Except.ok.inj h)
    exact .nil place before
  | cons s rest ih =>
    obtain ⟨more, hmore⟩ := hstages
    have hs : f.stages[place]? = some s := by rw [← List.head?_drop, ← hmore]; rfl
    have hrest : f.stages.drop (place + 1) = rest ++ more := by rw [← List.tail_drop, ← hmore]; rfl
    obtain ⟨r, after, later, hstage, hlater, rfl⟩ := runStages_cons_eq_ok_iff.1 h
    exact .cons (simulates_of_call hs (runStage_eq_ok_iff.1 hstage).1) (ih ⟨more, hrest.symm⟩ hlater)

/-- The report on calls can be made when their failures can be diagnosed and their gas can be told. -/
theorem reportOn_eq_ok_iff {initial : Snapshot} {results : List StageResult} {last : Carried}
    {report : Report} : reportOn f initial results last = .ok report ↔
      ∃ deltas, deltasOf initial.balances last.balances f.tokens = .ok deltas ∧
      ∃ errors, errorsOf results = .ok errors ∧ hasText report.gasUsed = true ∧
        ⟨f, initial, results,
          ⟨initial.owner, deltas, f.position.map fun _ => ⟨none, last.vault⟩⟩, errors⟩ = report := by
  simp only [reportOn, diffSince, Error.bind_eq_ok_iff, discard_writeInt_eq_ok_iff, pure, Except.pure,
    Except.ok.injEq]
  constructor
  · rintro ⟨_, ⟨deltas, hdeltas, rfl⟩, errors, herrors, -, hgas, rfl⟩
    exact ⟨deltas, hdeltas, errors, herrors, hgas, rfl⟩
  · rintro ⟨deltas, hdeltas, errors, herrors, hgas, rfl⟩
    exact ⟨_, ⟨deltas, hdeltas, rfl⟩, errors, herrors, (), hgas, rfl⟩

theorem finish_eq_ok_iff {initial : Snapshot} {results : List StageResult} {last : Carried}
    {report : Report} : (finish p f initial results last).1 = .ok report ↔
      reportOn f initial results last = .ok report ∧ (p.record [finishEntry report]).2 = .ok () := by
  rw [finish]
  cases reportOn f initial results last with
  | error e => simp
  | ok made =>
    cases hw : (p.record [finishEntry made]).2 with
    | error e =>
      simp only [hw, Except.map, reduceCtorEq, false_iff, not_and, Except.ok.injEq]
      rintro rfl h
      rw [hw] at h
      cases h
    | ok =>
      simp only [hw, Except.map, Except.ok.injEq, iff_self_and]
      rintro rfl
      exact hw

/-- A dry run returns when the snapshot can be taken, all calls go through, the report on them can be
made, and the journal can take its beginning and its end. -/
theorem dryRun_eq_ok_iff {report : Report} :
    (dryRun p f).result = .ok report ↔
      ∃ initial results last, capture p.reader f.owner f.tokens = .ok initial ∧
        (p.record (startEntries f)).2 = .ok () ∧
        (runStages p f 0 ⟨initial.balances, none⟩ f.stages).result = .ok (results, last) ∧
        (finish p f initial results last).1 = .ok report := by
  rw [dryRun]
  constructor
  · intro h
    split at h
    next => cases h
    next initial hinitial =>
      simp only [runFrom] at h
      split at h
      next => cases h
      next begun hstart =>
        split at h
        next => cases h
        next results last hresults =>
          exact ⟨initial, results, last, hinitial, congrArg Prod.snd hstart, hresults, h⟩
  · rintro ⟨initial, results, last, hinitial, hstart, hresults, hreport⟩
    obtain ⟨begun, hbegun⟩ : ∃ begun, p.record (startEntries f) = (begun, .ok ()) :=
      ⟨_, Prod.ext rfl hstart⟩
    simp [runFrom, hinitial, hbegun, hresults, hreport]

/-- **A dry run that returns is a row of calls**, from the snapshot of its tokens to the differences
from it. -/
theorem dryRun_eq_ok {report : Report} (h : (dryRun p f).result = .ok report) :
    capture p.reader f.owner f.tokens = .ok report.initial ∧
      ∃ last, SimulatesAll p f 0 ⟨report.initial.balances, none⟩ f.stages report.results last ∧
        deltasOf report.initial.balances last.balances f.tokens = .ok report.diff.deltas ∧
        report.diff.vault = (f.position.map fun _ => ⟨none, last.vault⟩) ∧
        errorsOf report.results = .ok report.errors := by
  obtain ⟨initial, results, last, hinitial, -, hresults, hreport⟩ := dryRun_eq_ok_iff.1 h
  obtain ⟨deltas, hdeltas, errors, herrors, -, rfl⟩ := reportOn_eq_ok_iff.1 (finish_eq_ok_iff.1 hreport).1
  exact ⟨hinitial, last, simulatesAll_of_runStages (List.prefix_refl _) hresults, hdeltas, rfl,
    herrors⟩

/-! ## What is carried -/

section

variable {initial : Snapshot} {place : Nat} {before after last : Carried} {s : Stage}
  {r : StageResult} {stages : List Stage} {results : List StageResult}

/-- The snapshot is what is carried to the first call. -/
theorem carries_start (initial : Snapshot) : Carries p f initial 0 ⟨initial.balances, none⟩ where
  balances asset := by simp [held?, latest?]
  vault := rfl

/-- The balances in the result of a call are those that are held after it. -/
theorem Simulates.balances_eq (h : Simulates p f place before s r after)
    (hbefore : Carries p f initial place before) (asset : String) :
    r.balances.get? asset = held? p f initial asset (place + 1) := by
  rw [h.balances, hbefore.balances, held?, held?, latest?_succ, Option.or_assoc]

/-- **One call keeps what is carried known from the responses.** -/
theorem Simulates.carries (h : Simulates p f place before s r after)
    (hbefore : Carries p f initial place before) : Carries p f initial (place + 1) after where
  balances asset := by rw [h.carried, h.balances_eq hbefore]
  vault := by rw [h.vault, hbefore.vault, latest?_succ]

theorem SimulatesAll.length_results (h : SimulatesAll p f place before stages results last) :
    results.length = stages.length := by
  induction h with
  | nil => rfl
  | cons _ _ ih => simp [ih]

/-- **So does a row of calls.** -/
theorem SimulatesAll.carries (h : SimulatesAll p f place before stages results last)
    (hbefore : Carries p f initial place before) :
    Carries p f initial (place + stages.length) last := by
  induction h with
  | nil => exact hbefore
  | @cons place _ _ _ _ _ rest _ call _ ih =>
    have hplace : place + (rest.length + 1) = place + 1 + rest.length := by omega
    rw [List.length_cons, hplace]
    exact ih (call.carries hbefore)

/-- **Each result of a row is that of a call** to which the balances before it are carried: those
before the row, or those in the result before. -/
theorem SimulatesAll.call_at (h : SimulatesAll p f place before stages results last)
    (hbefore : Carries p f initial place before) {i : Nat} (hs : stages[i]? = some s)
    (hr : results[i]? = some r) :
    ∃ c c', Simulates p f (place + i) c s r c' ∧ Carries p f initial (place + i) c ∧
      (before.balances :: results.map StageResult.balances)[i]? = some c.balances := by
  induction h generalizing i with
  | nil => cases hs
  | @cons place before after _ _ _ _ _ call _ ih =>
    cases i with
    | zero =>
      obtain rfl := Option.some.inj hs
      obtain rfl := Option.some.inj hr
      exact ⟨before, after, call, hbefore, rfl⟩
    | succ i =>
      have hplace : place + (i + 1) = place + 1 + i := by omega
      rw [hplace]
      obtain ⟨c, c', hcall, hcarries, hc⟩ := ih (call.carries hbefore) hs hr
      exact ⟨c, c', hcall, hcarries, by rwa [call.carried] at hc⟩

end

/-- The balances at the start of a flow and after each of its calls. -/
def Report.known (r : Report) : List Balances :=
  r.initial.balances :: r.results.map StageResult.balances

/-- Each result of a report is that of a call to which what is held there is carried. -/
theorem exists_call_at {report : Report} {last : Carried}
    (h : SimulatesAll p f 0 ⟨report.initial.balances, none⟩ f.stages report.results last) {i : Nat}
    {r : StageResult} (hr : report.results[i]? = some r) :
    ∃ s c c', f.stages[i]? = some s ∧ Simulates p f i c s r c' ∧
      Carries p f report.initial i c ∧ report.known[i]? = some c.balances := by
  obtain ⟨hi, -⟩ := List.getElem?_eq_some_iff.1 hr
  have hs := List.getElem?_eq_getElem (h.length_results ▸ hi)
  obtain ⟨c, c', hcall, hc, hknown⟩ := h.call_at (carries_start report.initial) hs hr
  rw [Nat.zero_add] at hcall hc
  exact ⟨_, c, c', hs, hcall, hc, hknown⟩

/-! ## Two repayments

A debt is paid off in two calls. The response to the first shows the payer's store and the position,
that to the second, which runs out of gas, the position alone.
-/

section

open Move

def usdc : Token := ⟨"USDC", "0xc1", 6⟩

/-- The store that holds the payer's balance. It is never worked out: what matters is that it is the
address that the payer and the asset give. -/
def purse : String :=
  Address.ofSeed ((Address.bytes? "0xa11ce".toList).getD []) ((Address.bytes? "0xc1".toList).getD [])

/-- The write of the payer's store. -/
def purseWrite : Json.Fields :=
  [("type", .str "write_resource"), ("address", .str purse),
    ("data", .obj [("type", .str "0x1::fungible_asset::FungibleStore"),
      ("data", .obj [("balance", .str "70"), ("metadata", .obj [("inner", .str "0xc1")])])])]

/-- The write of the position with a debt. -/
def debtWrite (debt : String) : Json.Fields :=
  [("type", .str "write_resource"), ("address", .str "0xa11ce"),
    ("data", .obj [("type", .str "0xcafe::lending::Vault"),
      ("data", .obj [("liabilities", .obj [("data",
        .arr [.obj [("value", .obj [("principal", .str debt)])]])])])])]

/-- The response to the call at a place. -/
def response : Nat → Json
  | 0 => .obj [("success", .bool true), ("gas_used", .str "7"),
      ("changes", .arr [.obj (debtWrite "100"), .obj purseWrite])]
  | _ => .obj [("success", .bool false), ("vm_status", .str "OUT_OF_GAS"), ("gas_used", .str "5"),
      ("changes", .arr [.obj (debtWrite "40")])]

def chain : Services where
  simulator place _ := .ok (response place)
  clock place := .int place
  reader _ _ := .ok (.str "100")

/-- A call that is expected to cost and to pay off. The asset is spelled in another way than where it
is tracked. -/
def repay (label : String) : Stage where
  label := .str label
  description := .str ""
  payload := { function := .str "0xcafe::lending::repay" }
  expectations := [⟨.balanceDecrease, .str "pays", .str "0x0C1"⟩,
    ⟨.debtDecrease, .str "owes less", .null⟩]

def repaying : MovePlan.Flow where
  name := .str "repay"
  owner := "0xa11ce"
  tokens := [usdc]
  stages := [repay "first", repay "second"]
  lending := some ⟨.str "main", .str "0xCAFE"⟩

/-- The position that is tracked. -/
def market : Position := ⟨"0xCAFE", "lending::Vault", "main"⟩

theorem expectedStores_repaying :
    expectedStores repaying.owner repaying.tokens = .ok [(Address.canonical purse, "0xc1")] := rfl

theorem addressOf_purseWrite : addressOf purseWrite = purse := by
  have hvalue : valueIn purseWrite "address" = .str purse := rfl
  have hgiven : (Json.str purse).given = true := by simp [Json.given, purse, Address.ofSeed]
  rw [addressOf, hvalue, Json.orElse, if_pos hgiven]
  rfl

theorem extractBalances_first {o : Outcome} (h : o.changes = [debtWrite "100", purseWrite]) :
    extractBalances o repaying.tokens repaying.owner = .ok [("0xc1", 70)] := by
  have hdebt : storeWrite? (debtWrite "100") = .ok none := rfl
  have hpurse : storeWrite? purseWrite = .ok (some ⟨"0xc1", 70⟩) := rfl
  have hasset : assetAt? [(Address.canonical purse, "0xc1")] (addressOf purseWrite) =
      some "0xc1" := by
    rw [addressOf_purseWrite, assetAt?]
    simp
  refine Error.bind_eq_ok_iff.2 ⟨_, expectedStores_repaying, ?_⟩
  rw [h, balancesFrom_cons_of_none hdebt, balancesFrom_cons_of_some hpurse hasset, balancesFrom]
  rfl

theorem extractBalances_second {o : Outcome} (h : o.changes = [debtWrite "40"]) :
    extractBalances o repaying.tokens repaying.owner = .ok [] := by
  have hdebt : storeWrite? (debtWrite "40") = .ok none := rfl
  refine Error.bind_eq_ok_iff.2 ⟨_, expectedStores_repaying, ?_⟩
  rw [h, balancesFrom_cons_of_none hdebt, balancesFrom]

/-- The first response shows what is left in the store, and the debt. -/
theorem exists_resultOf_first (duration : Binary64) :
    ∃ r, resultOf repaying (repay "first") ⟨[("0xc1", 100)], none⟩ (response 0) duration =
      .ok (r, ⟨[("0xc1", 70)], some ⟨0, 100, true, "main"⟩⟩) ∧
        r.verdicts = [⟨true, .str "pays", "-0.000030 USDC"⟩,
          ⟨false, .str "owes less", "vault not tracked"⟩] ∧
        r.label = .str "first" ∧ r.success = true ∧ r.gasUsed = 7 ∧ r.toJson.isWritable = true := by
  obtain ⟨o, ho, hchanges, hevents, hsuccess, hgas, gasCost, hcost⟩ :
      ∃ o, Outcome.ofResponse (response 0) = .ok o ∧ o.changes = [debtWrite "100", purseWrite] ∧
        o.parsedEvents = [] ∧ o.success = true ∧ o.gasUsed = 7 ∧ ∃ x, o.gasCost = .ok x :=
    ⟨_, rfl, rfl, rfl, rfl, rfl, _, rfl⟩
  have hvault : extractVault o market = .ok (some ⟨0, 100, true, "main"⟩) := by
    rw [extractVault, hchanges]
    rfl
  have hdeltas : deltasOf [("0xc1", 100)] [("0xc1", 70)] repaying.tokens =
      .ok [⟨usdc, 100, 70, -30, "-0.000030"⟩] := rfl
  have hverdicts : judgeAll [⟨usdc, 100, 70, -30, "-0.000030"⟩] none (some ⟨0, 100, true, "main"⟩)
      (repay "first").expectations = .ok [⟨true, .str "pays", "-0.000030 USDC"⟩,
        ⟨false, .str "owes less", "vault not tracked"⟩] := rfl
  have hanalysis := analyze_of_tracked (extractBalances_first hchanges) hvault
  have htext : hasText o.gasUsed = true := by rw [hgas]; decide
  refine ⟨_, resultOf_eq_ok_iff.2 ⟨o, ho, _, hanalysis, _, hdeltas, _, hverdicts, gasCost, hcost, htext,
    rfl, rfl⟩, rfl, rfl, hsuccess, hgas, ?_⟩
  simp only [StageResult.toJson, hevents, hgas]
  rfl

/-- The second response shows a smaller debt, and no store. -/
theorem exists_resultOf_second (duration : Binary64) :
    ∃ r, resultOf repaying (repay "second") ⟨[("0xc1", 70)], some ⟨0, 100, true, "main"⟩⟩
      (response 1) duration = .ok (r, ⟨[("0xc1", 70)], some ⟨0, 40, true, "main"⟩⟩) ∧
        r.verdicts = [⟨false, .str "pays", "+0.000000 USDC"⟩,
          ⟨true, .str "owes less", "debt 100 -> 40"⟩] ∧
        r.label = .str "second" ∧ r.success = false ∧ r.status = "OUT_OF_GAS" ∧ r.gasUsed = 5 ∧
        r.toJson.isWritable = true := by
  obtain ⟨o, ho, hchanges, hevents, hsuccess, hstatus, hgas, gasCost, hcost⟩ :
      ∃ o, Outcome.ofResponse (response 1) = .ok o ∧ o.changes = [debtWrite "40"] ∧
        o.parsedEvents = [] ∧ o.success = false ∧ o.status = "OUT_OF_GAS" ∧ o.gasUsed = 5 ∧
        ∃ x, o.gasCost = .ok x :=
    ⟨_, rfl, rfl, rfl, rfl, rfl, rfl, _, rfl⟩
  have hvault : extractVault o market = .ok (some ⟨0, 40, true, "main"⟩) := by
    rw [extractVault, hchanges]
    rfl
  have hdeltas : deltasOf [("0xc1", 70)] [("0xc1", 70)] repaying.tokens =
      .ok [⟨usdc, 70, 70, 0, "+0.000000"⟩] := rfl
  have hverdicts : judgeAll [⟨usdc, 70, 70, 0, "+0.000000"⟩] (some ⟨0, 100, true, "main"⟩)
      (some ⟨0, 40, true, "main"⟩) (repay "second").expectations =
        .ok [⟨false, .str "pays", "+0.000000 USDC"⟩, ⟨true, .str "owes less", "debt 100 -> 40"⟩] :=
    rfl
  have hanalysis := analyze_of_tracked (extractBalances_second hchanges) hvault
  have htext : hasText o.gasUsed = true := by rw [hgas]; decide
  refine ⟨_, resultOf_eq_ok_iff.2 ⟨o, ho, _, hanalysis, _, hdeltas, _, hverdicts, gasCost, hcost, htext,
    rfl, rfl⟩, rfl, rfl, hsuccess, hstatus, hgas, ?_⟩
  simp only [StageResult.toJson, hevents, hgas, hstatus]
  rfl

/-- A stage whose result can be written goes through when its call does. -/
theorem runStage_of_isWritable {place : Nat} {s : Stage} {before after : Carried} {r : StageResult}
    (hcall : p.call f place before s = .ok (r, after)) (hlabel : r.label.isWritable = true)
    (hr : r.toJson.isWritable = true) : (runStage p f place before s).1 = .ok (r, after) :=
  runStage_eq_ok_iff.2 ⟨hcall, record_stageEntries hlabel hr⟩

/-- There is a warning for each verdict that does not pass. -/
theorem length_warnings (r : StageResult) :
    r.warnings.length = ((r.verdicts.map Verdict.passed).filter (!·)).length := by
  rw [StageResult.warnings, List.length_map, List.filter_map, List.length_map]
  rfl

/-- A status that tells of no abort is explained by the rules alone. -/
theorem diagnoseOutcome_outOfGas (step : Json) :
    Diagnosis.diagnoseOutcome false "OUT_OF_GAS" step =
      .ok [Diagnosis.explain "OUT_OF_GAS" step none] := by
  have hnone : Diagnosis.findAbort? "OUT_OF_GAS" = none := by decide
  have hfailed : ¬ ("OUT_OF_GAS" = "" ∨ "OUT_OF_GAS" = Diagnosis.successStatus) := by decide
  rw [Diagnosis.diagnoseOutcome, if_neg Bool.false_ne_true, Diagnosis.diagnose, if_neg hfailed,
    Diagnosis.diagnoseFailure, Diagnosis.parseAbort, hnone]
  rfl

theorem errorsOf_repaying {first second : StageResult} (hfirst : first.success = true)
    (hsecond : second.success = false) (hstatus : second.status = "OUT_OF_GAS") :
    errorsOf [first, second] = .ok [Diagnosis.explain "OUT_OF_GAS" second.label none] := by
  have hnothing : first.errors = .ok [] := by
    rw [StageResult.errors, hfirst]
    rfl
  have hone : second.errors = .ok [Diagnosis.explain "OUT_OF_GAS" second.label none] := by
    rw [StageResult.errors, hsecond, hstatus, diagnoseOutcome_outOfGas]
  rw [errorsOf, errorsOf, hnothing, hone]
  rfl

/-- Both calls go through. -/
theorem exists_runStages_repaying : ∃ first second,
    (runStages chain repaying 0 ⟨[("0xc1", 100)], none⟩ repaying.stages).result =
      .ok ([first, second], ⟨[("0xc1", 70)], some ⟨0, 40, true, "main"⟩⟩) ∧
    errorsOf [first, second] = .ok [Diagnosis.explain "OUT_OF_GAS" second.label none] ∧
    first.gasUsed = 7 ∧ second.gasUsed = 5 ∧
    first.verdicts.map Verdict.passed = [true, false] ∧
    second.verdicts.map Verdict.passed = [false, true] := by
  obtain ⟨d, hd⟩ : ∃ d, milliseconds (chain.clock 0) (chain.clock 1) = .ok d := ⟨_, rfl⟩
  obtain ⟨e, he⟩ : ∃ e, milliseconds (chain.clock 2) (chain.clock 3) = .ok e := ⟨_, rfl⟩
  obtain ⟨first, hfirst, hpassed₁, hlabel₁, hsuccess₁, hgas₁, hwritable₁⟩ := exists_resultOf_first d
  obtain ⟨second, hsecond, hpassed₂, hlabel₂, hsuccess₂, hstatus, hgas₂, hwritable₂⟩ :=
    exists_resultOf_second e
  have hcall₁ : chain.call repaying 0 ⟨[("0xc1", 100)], none⟩ (repay "first") = .ok (first, _) :=
    call_eq_ok_iff.2 ⟨response 0, rfl, d, hd, hfirst⟩
  have hcall₂ : chain.call repaying 1 ⟨[("0xc1", 70)], some ⟨0, 100, true, "main"⟩⟩ (repay "second") =
      .ok (second, _) := call_eq_ok_iff.2 ⟨response 1, rfl, e, he, hsecond⟩
  have hstage₁ := runStage_of_isWritable hcall₁ (by rw [hlabel₁]; rfl) hwritable₁
  have hstage₂ := runStage_of_isWritable hcall₂ (by rw [hlabel₂]; rfl) hwritable₂
  have hlater : (runStages chain repaying 1 ⟨[("0xc1", 70)], some ⟨0, 100, true, "main"⟩⟩
      [repay "second"]).result = .ok ([second], ⟨[("0xc1", 70)], some ⟨0, 40, true, "main"⟩⟩) :=
    runStages_cons_eq_ok_iff.2 ⟨second, _, [], hstage₂, rfl, rfl⟩
  exact ⟨first, second, runStages_cons_eq_ok_iff.2 ⟨first, _, _, hstage₁, hlater, rfl⟩,
    errorsOf_repaying hsuccess₁ hsuccess₂ hstatus, hgas₁, hgas₂, by rw [hpassed₁]; rfl,
    by rw [hpassed₂]; rfl⟩

/-- **The dry run of the two repayments returns.** The store is touched by the first call alone, and
of the debt there is nothing to compare with before the second. -/
theorem exists_report_repaying : ∃ report, (dryRun chain repaying).result = .ok report ∧
    report.diff = ⟨"0xa11ce", [⟨usdc, 100, 70, -30, "-0.000030"⟩],
      some ⟨none, some ⟨0, 40, true, "main"⟩⟩⟩ ∧
    report.results.map (fun r => r.verdicts.map Verdict.passed) = [[true, false], [false, true]] := by
  obtain ⟨first, second, hall, herrors, hgas₁, hgas₂, hpassed₁, hpassed₂⟩ := exists_runStages_repaying
  have hinitial : capture chain.reader repaying.owner repaying.tokens =
      .ok { owner := "0xa11ce", balances := [("0xc1", 100)] } := rfl
  have hdiff : deltasOf [("0xc1", 100)] [("0xc1", 70)] repaying.tokens =
      .ok [⟨usdc, 100, 70, -30, "-0.000030"⟩] := rfl
  let report : Report := ⟨repaying, { owner := "0xa11ce", balances := [("0xc1", 100)] },
    [first, second], ⟨"0xa11ce", [⟨usdc, 100, 70, -30, "-0.000030"⟩],
      some ⟨none, some ⟨0, 40, true, "main"⟩⟩⟩, [Diagnosis.explain "OUT_OF_GAS" second.label none]⟩
  have hgas : hasText report.gasUsed = true := by
    have hsum : report.gasUsed = (0 + first.gasUsed) + second.gasUsed := rfl
    rw [hsum, hgas₁, hgas₂]
    decide
  have hone : hasText report.errors.length = true := by
    have hcount : report.errors.length = 1 := rfl
    rw [hcount]
    decide
  have hwarnings : hasText report.warnings.length = true := by
    have hcount : report.warnings.length = first.warnings.length + second.warnings.length := by
      simp [report, Report.warnings]
    rw [hcount, length_warnings, length_warnings, hpassed₁, hpassed₂]
    rfl
  have hreport : reportOn repaying report.initial [first, second]
      ⟨[("0xc1", 70)], some ⟨0, 40, true, "main"⟩⟩ = .ok report :=
    reportOn_eq_ok_iff.2 ⟨_, hdiff, _, herrors, hgas, rfl⟩
  have hfinish : ∀ e ∈ [finishEntry report], e.isWritable = true :=
    List.forall_mem_singleton.2 (isWritable_finishEntry rfl hone hwarnings hgas)
  have hend := finish_eq_ok_iff.2 ⟨hreport, record_of_writable (p := chain) hfinish⟩
  exact ⟨report, dryRun_eq_ok_iff.2 ⟨_, _, _, hinitial, rfl, hall, hend⟩, rfl,
    by simp [report, hpassed₁, hpassed₂]⟩

end

end MovePlan.Flow
