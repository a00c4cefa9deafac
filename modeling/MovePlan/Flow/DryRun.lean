import MovePlan.Flow.Report
import MovePlan.Flow.Journal

/-!
# Dry runs

Each call of a flow is simulated against the chain as it is, without the effects of the calls before
it. Balances are carried forward: a simulation shows only the stores that it touches, and every other
token keeps the balance that was known last. The position is carried in the same way.

A run stops at the first response that cannot be read; the journal then has what went before it. It
also stops where its journal cannot take an entry, and it returns no report if a failure cannot be
diagnosed or the gas has too many digits to be told.
-/

namespace MovePlan.Flow

open Simulation Tracking Numeric

/-- What is carried from one call to the next. -/
structure Carried where
  balances : Balances
  vault : Option Vault := none

/-- What a dry run works with: the answers to the calls and the clock, each by its place in the order
of questions, the reader of balances, and whether there is a journal. -/
structure Services where
  simulator : (place : Nat) → Payload → Except Error Json
  clock : (place : Nat) → Json
  reader : BalanceReader
  isLogged : Bool := true

/-- What came of a dry run: the result, the balances that were asked for, the payloads that were
simulated, and what was handed to the run's journal. The last entry may be one that the journal cannot
take; the result is that failure then. -/
structure Run where
  result : Except Error Report
  readings : List Reading
  simulated : List Payload := []
  entries : List Entry := []

/-! ## One call -/

/-- What a response tells about one call, and what is carried to the next. -/
def resultOf (f : Flow) (s : Stage) (carried : Carried) (response : Json) (duration : Binary64) :
    Except Error (StageResult × Carried) := do
  let o ← Outcome.ofResponse response
  let analysis ← analyze o f.tokens f.owner f.position
  let balances := carried.balances.overlay analysis.balances
  let deltas ← deltasOf carried.balances balances f.tokens
  let vault := analysis.vault.or carried.vault
  let verdicts ← judgeAll deltas carried.vault vault s.expectations
  let gasCost ← o.gasCost
  -- each call is announced with its gas
  discard (writeInt o.gasUsed)
  let result : StageResult :=
    { label := s.label, description := s.description, success := o.success, status := o.status
      gasUsed := o.gasUsed, gasCost, events := analysis.events, balances, vault := analysis.vault
      deltas, verdicts, duration }
  return (result, ⟨balances, vault⟩)

/-- What the journal says of one call. -/
def stageEntries (r : StageResult) : List Entry :=
  [.event (.str "step_simulated") [("label", r.label), ("success", .bool r.success),
      ("vm_status", .str r.status)],
    .step r.toJson]

/-- The entries that are handed to a journal, and whether it can take them: after one that cannot be
written no other is tried. -/
def handOver : List Entry → List Entry × Except Error Unit
  | [] => ([], .ok ())
  | e :: rest =>
    if e.isWritable then (e :: (handOver rest).1, (handOver rest).2)
    else ([e], .error .tooManyDigits)

/-- What a run hands to its journal, if there is one. -/
def Services.record (p : Services) (es : List Entry) : List Entry × Except Error Unit :=
  if p.isLogged then handOver es else ([], .ok ())

/-- The time between two readings of a clock in seconds, in milliseconds. -/
def milliseconds (start stop : Json) : Except Error Binary64 := do
  let seconds ← stop.minus start
  return seconds.mul (.ofInt 1000)

/-- The call at a place of a flow: its response, the time that it took, and what they come to. -/
def Services.call (p : Services) (f : Flow) (place : Nat) (carried : Carried) (s : Stage) :
    Except Error (StageResult × Carried) := do
  let response ← p.simulator place s.payload
  let duration ← milliseconds (p.clock (2 * place)) (p.clock (2 * place + 1))
  resultOf f s carried response duration

/-- The call at a place, and what is handed to the journal once it went through. -/
def runStage (p : Services) (f : Flow) (place : Nat) (carried : Carried) (s : Stage) :
    Except Error (StageResult × Carried) × List Entry :=
  match p.call f place carried s with
  | .error e => (.error e, [])
  | .ok called =>
    let (entries, written) := p.record (stageEntries called.1)
    (written.map fun () => called, entries)

/-! ## All calls -/

/-- What came of some calls in a row. -/
structure Stretch where
  result : Except Error (List StageResult × Carried)
  simulated : List Payload := []
  entries : List Entry := []

/-- Simulates calls one after the other; `place` is the place of the first in the flow. -/
def runStages (p : Services) (f : Flow) (place : Nat) (carried : Carried) : List Stage → Stretch
  | [] => ⟨.ok ([], carried), [], []⟩
  | s :: rest =>
    match runStage p f place carried s with
    | (.error e, entries) => ⟨.error e, [s.payload], entries⟩
    | (.ok (r, carried), entries) =>
      let later := runStages p f (place + 1) carried rest
      ⟨later.result.map fun (rs, carried) => (r :: rs, carried), s.payload :: later.simulated,
        entries ++ later.entries⟩

/-- What the journal says at the start of a run. -/
def startEntries (f : Flow) : List Entry :=
  [.description f.toJson,
    .event (.str "dry_run_started") [("plan", f.name), ("owner", .str f.owner),
      ("steps", .nat f.stages.length)]]

/-- What the journal says at the end of a run. -/
def finishEntry (r : Report) : Entry :=
  .event (.str "dry_run_finished") [("plan", r.flow.name), ("success", .bool r.success),
    ("errors", .nat r.errors.length), ("warnings", .nat r.warnings.length),
    ("total_gas_used", .int r.gasUsed)]

/-- The report on calls that were all simulated. It is announced with all their gas. -/
def reportOn (f : Flow) (initial : Snapshot) (results : List StageResult) (last : Carried) :
    Except Error Report := do
  let transition := f.position.map fun _ => ⟨none, last.vault⟩
  let diff ← diffSince initial last.balances f.tokens transition
  let errors ← errorsOf results
  let report : Report := ⟨f, initial, results, diff, errors⟩
  discard (writeInt report.gasUsed)
  return report

/-- The end of a run: the report, and what is handed to the journal with it. -/
def finish (p : Services) (f : Flow) (initial : Snapshot) (results : List StageResult)
    (last : Carried) : Except Error Report × List Entry :=
  match reportOn f initial results last with
  | .error e => (.error e, [])
  | .ok report =>
    let (entries, written) := p.record [finishEntry report]
    (written.map fun () => report, entries)

/-- The run after its snapshot. -/
def runFrom (p : Services) (f : Flow) (initial : Snapshot) :
    Except Error Report × List Payload × List Entry :=
  match p.record (startEntries f) with
  | (begun, .error e) => (.error e, [], begun)
  | (begun, .ok ()) =>
    let stretch := runStages p f 0 ⟨initial.balances, none⟩ f.stages
    match stretch.result with
    | .error e => (.error e, stretch.simulated, begun ++ stretch.entries)
    | .ok (results, last) =>
      let (result, ended) := finish p f initial results last
      (result, stretch.simulated, begun ++ stretch.entries ++ ended)

/-- Tries the calls of a flow. -/
def dryRun (p : Services) (f : Flow) : Run :=
  let readings := readingsFor f.owner f.tokens
  match capture p.reader f.owner f.tokens with
  | .error e => ⟨.error e, readings, [], []⟩
  | .ok initial =>
    let (result, simulated, entries) := runFrom p f initial
    ⟨result, readings, simulated, entries⟩

end MovePlan.Flow
