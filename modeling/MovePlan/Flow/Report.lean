import MovePlan.Flow.Basic
import MovePlan.Diagnosis.Rules

/-!
# Reports on flows

What a dry run has to say about each call and about the flow as a whole. A failed call and a failed
expectation are parts of a report, not errors, as long as the failure can be diagnosed.
-/

namespace MovePlan.Flow

open Simulation Tracking Diagnosis Numeric

/-- What came of one call. -/
structure StageResult where
  label : Json
  description : Json
  success : Bool
  status : String
  gasUsed : Int
  gasCost : Binary64
  events : List Event
  /-- The owner's balances after the call. -/
  balances : Balances
  /-- The position after the call, if the call touched it. -/
  vault : Option Vault
  deltas : List Delta
  verdicts : List Verdict
  /-- How long the simulation took, in milliseconds. -/
  duration : Binary64
  deriving Inhabited

/-- The number of decimals that durations are shown with. -/
def durationPlaces : Nat := 3

namespace StageResult

def toJson (r : StageResult) : Json :=
  .obj [("label", r.label), ("description", r.description), ("success", .bool r.success),
    ("vmStatus", .str r.status), ("gasUsed", .int r.gasUsed), ("gasCostApt", .float r.gasCost),
    ("events", .arr (r.events.map Event.toJson)), ("balancesAfter", r.balances.toJson),
    ("vaultAfter", .ofOption Vault.toJson r.vault),
    ("deltas", .arr (r.deltas.map Delta.toJson)),
    ("expectationResults", .arr (r.verdicts.map Verdict.toJson)),
    ("durationMs", .float (r.duration.roundPlaces durationPlaces))]

/-- The diagnosis of a failed call. -/
def errors (r : StageResult) : Except Error (List Diagnosis) :=
  diagnoseOutcome r.success r.status r.label

/-- The warnings about expectations that failed. -/
def warnings (r : StageResult) : List Diagnosis :=
  (r.verdicts.filter fun v => !v.passed).map fun v => expectationWarning v r.label

end StageResult

/-- The diagnoses of all failed calls, up to the first that cannot be diagnosed. -/
def errorsOf : List StageResult → Except Error (List Diagnosis)
  | [] => .ok []
  | r :: rest => do
    let first ← r.errors
    let later ← errorsOf rest
    return first ++ later

/-- What came of a flow. -/
structure Report where
  flow : Flow
  initial : Snapshot
  results : List StageResult
  diff : Diff
  /-- The diagnoses of the failed calls. -/
  errors : List Diagnosis
  deriving Inhabited

namespace Report

def success (r : Report) : Bool := r.results.all StageResult.success

def failures (r : Report) : Nat := (r.results.filter fun s => !s.success).length

def gasUsed (r : Report) : Int := r.results.foldl (fun n s => n + s.gasUsed) 0

/-- The price of all gas, added in the order of the calls. -/
def gasCost (r : Report) : Binary64 :=
  r.results.foldl (fun x s => x.add s.gasCost) (.zero false)

def warnings (r : Report) : List Diagnosis := r.results.flatMap StageResult.warnings

/-- The report in one line. -/
def summary (r : Report) : String :=
  let status := if r.success then "OK" else "FAILED"
  let gas := String.ofList (intText r.gasUsed)
  let steps := r.results.length
  let warnings := r.warnings.length
  let failures := r.failures
  let name := r.flow.name.display
  s!"{name}: {status} ({steps} step(s), {failures} failed, {warnings} warning(s), gas {gas})"

def fields (r : Report) : Json.Fields :=
  [("plan", r.flow.toJson), ("success", .bool r.success), ("totalGasUsed", .int r.gasUsed),
    ("totalGasCostApt", .float r.gasCost), ("initialSnapshot", r.initial.toJson),
    ("stepResults", .arr (r.results.map StageResult.toJson)), ("overallDiff", r.diff.toJson),
    ("errors", .arr (r.errors.map Diagnosis.toJson)),
    ("warnings", .arr (r.warnings.map Diagnosis.toJson)), ("summary", .str r.summary)]

def toJson (r : Report) : Json := .obj r.fields

end Report

end MovePlan.Flow
