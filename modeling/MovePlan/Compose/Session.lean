import MovePlan.Compose.Build
import MovePlan.Diagnosis.Rules
import MovePlan.Flow.Journal
import MovePlan.Plan.Repair
import MovePlan.Plan.Decode

/-!
# Composing sessions

A session holds a graph and the tokens to keep track of, and carries what was looked up from one
request to the next. Its graph may be validated, built, and built and simulated; the simulation tells
the status, the writes, and how the owner's balances would change. A built transaction is handed to
an executor only when that is asked for.
-/

namespace MovePlan.Compose

open Abi Validation Simulation Tracking Diagnosis Numeric

/-- Where transactions are simulated: the answer to each, by its place in the order of questions. -/
abbrev Simulator (α : Type) := (place : Nat) → α → Except Error Json

/-- What signs and submits a transaction, given a description of it. -/
abbrev Executor := Transaction → (description : String) → Json

/-- What a session works with. -/
structure Services (σ : Type) where
  source : Source σ
  builder : ScriptBuilder
  simulator : Simulator Transaction
  reader : Option BalanceReader := none
  executor : Option Executor := none

/-- A session. -/
structure Session (σ : Type) where
  desk : Desk σ
  graph : StepGraph := {}
  tokens : List Token := []
  signer : Int := 0
  owner : String := ""
  /-- The scripts that were begun. -/
  scripts : List Script := []
  /-- The transactions that were simulated. -/
  simulated : List Transaction := []
  /-- The balances that were asked for. -/
  readings : List Reading := []
  /-- What there is to be written into the session's journal. -/
  entries : List Flow.Entry := []

/-! ## Simulated compositions -/

/-- A composition that was simulated. -/
structure Composed where
  simulation : Summary
  transaction : Transaction
  diff : Option Diff
  errors : List Diagnosis
  warnings : List Finding
  labels : List String
  deriving Inhabited

/-- The labels of steps in their order. -/
def chain (labels : List String) : String := " -> ".intercalate labels

/-- A composition in one line. -/
def summaryLine (labels : List String) (s : Summary) (errors warnings : Nat) : String :=
  let steps := chain labels
  let status := if s.success then "SUCCESS" else "FAILED"
  let cost := String.ofList (s.gasCost.fixedText 6)
  let gas := String.ofList (intText s.gasUsed)
  s!"{steps}: {status} | gas {gas} ({cost} APT) | {errors} error(s), {warnings} warning(s)"

namespace Composed

def summary (c : Composed) : String :=
  summaryLine c.labels c.simulation c.errors.length c.warnings.length

def fields (c : Composed) : Json.Fields :=
  [("success", .bool c.simulation.success), ("simulation", c.simulation.toJson),
    ("balanceDiff", .ofOption Diff.toJson c.diff),
    ("errors", .arr (c.errors.map Diagnosis.toJson)),
    ("warnings", .arr (c.warnings.map Finding.toJson)), ("summary", .str c.summary),
    ("stepLabels", .texts c.labels)]

def toJson (c : Composed) : Json := .obj c.fields

/-- Hands the transaction to the executor, if there is one. -/
def execute (c : Composed) (executor : Option Executor) : Except Error Json :=
  match executor with
  | none => .error .executionUnavailable
  | some submit => .ok (submit c.transaction ("Composed: " ++ chain c.labels))

end Composed

/-! ## Requests -/

namespace Session

variable {σ : Type}

/-- A session on a plan, which is repaired before it is decoded. -/
def ofPlan (plan : Json) (s : Session σ) : Except Error (Session σ) := do
  let p ← Plan.decode (Plan.repair plan).1
  return { s with graph := p.graph, tokens := p.tokens }

def addStep (s : Session σ) (draft : StepGraph.Draft) : Except Error (Session σ) := do
  let graph ← s.graph.add draft
  return { s with graph }

def trackTokens (s : Session σ) (tokens : List Token) : Session σ := { s with tokens }

def validate (p : Services σ) (s : Session σ) : Except Error Report × Session σ :=
  let (report, desk) := Validation.validate p.source s.graph s.desk
  (report, { s with desk })

/-- The event that a transaction was built. -/
def builtEntry (labels : List String) (feePayer : Bool) (b : Built) : Flow.Entry :=
  .event (.str "composed_built") [("steps", .texts labels), ("fee_payer", .bool feePayer),
    ("warnings", .texts (b.report.warnings.map Finding.code))]

def build (p : Services σ) (feePayer : Bool) (s : Session σ) : Except Error Built × Session σ :=
  let attempt := Compose.build p.source p.builder s.graph s.signer feePayer s.desk
  let s := { s with desk := attempt.desk, scripts := s.scripts ++ attempt.script.toList }
  match attempt.result with
  | .error e => (.error e, s)
  | .ok b => (.ok b, { s with entries := s.entries ++ [builtEntry s.graph.labels feePayer b] })

/-- The reader, if there are tokens to read and an owner to read them for. -/
def activeReader (p : Services σ) (s : Session σ) : Option BalanceReader :=
  if s.tokens.isEmpty || s.owner == "" then none else p.reader

/-- The change of the owner's balances by an outcome: what the outcome does not show stays as it was
read. -/
def balanceDiff (reader : BalanceReader) (owner : String) (tokens : List Token) (o : Outcome) :
    Except Error Diff := do
  let before ← capture reader owner tokens
  let shown ← extractBalances o tokens owner
  diffSince before (before.balances.overlay shown) tokens none

/-- The composition of a built transaction that was simulated. A failure is diagnosed, and the gas is
told when the composition is announced; either may have too many digits. -/
def composedOf (labels : List String) (b : Built) (simulation : Summary) (diff : Option Diff) :
    Except Error Composed := do
  let errors ← diagnoseOutcome simulation.success simulation.status .null
  discard (writeInt simulation.gasUsed)
  return { simulation, transaction := b.transaction, diff, errors, warnings := b.report.warnings, labels }

/-- The composition that a response to a built transaction tells of, and the readings it takes. -/
def compose (reader : Option BalanceReader) (s : Session σ) (b : Built) (response : Json) :
    Except Error Composed × List Reading :=
  let start : Except Error (Outcome × Summary) := do
    let o ← Outcome.ofResponse response
    let summary ← summarize o (Registry.ofTokens s.tokens) none
    return (o, summary)
  match start with
  | .error e => (.error e, [])
  | .ok (o, simulation) =>
    match reader with
    | none => (composedOf s.graph.labels b simulation none, [])
    | some reader =>
      (balanceDiff reader s.owner s.tokens o >>= fun diff =>
          composedOf s.graph.labels b simulation (some diff),
        readingsFor s.owner s.tokens)

/-- The event that a transaction was simulated. -/
def simulatedEntry (c : Composed) : Flow.Entry :=
  .event (.str "composed_simulated") [("steps", .texts c.labels), ("success", .bool c.simulation.success),
    ("vm_status", .str c.simulation.status), ("gas_used", .int c.simulation.gasUsed)]

/-- Builds the transaction and simulates it. -/
def simulate (p : Services σ) (feePayer : Bool) (s : Session σ) : Except Error Composed × Session σ :=
  match s.build p feePayer with
  | (.error e, s) => (.error e, s)
  | (.ok b, s) =>
    let response := p.simulator s.simulated.length b.transaction
    let s := { s with simulated := s.simulated ++ [b.transaction] }
    match response with
    | .error e => (.error e, s)
    | .ok response =>
      let (composed, readings) := compose (s.activeReader p) s b response
      let s := { s with readings := s.readings ++ readings }
      match composed with
      | .error e => (.error e, s)
      | .ok c => (.ok c, { s with entries := s.entries ++ [simulatedEntry c] })

end Session

end MovePlan.Compose
