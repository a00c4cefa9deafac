import MovePlan.Compose.Script
import MovePlan.Validation.Validator

/-!
# Building transactions

A graph becomes a transaction in two stages. It is validated first, and a hard finding ends the
attempt before any script is begun. Then a script is begun and every step is resolved and called in
order, the handles of each call being recorded for the steps after it.
-/

namespace MovePlan.Compose

open Graph Abi Validation

/-- A graph that became a transaction. -/
structure Built where
  transaction : Transaction
  report : Report
  calls : List ResolvedCall
  deriving Inhabited

/-- What came of an attempt to build: the result, the interfaces that were looked up, and the script
that was begun, if one was. -/
structure Attempt (σ : Type) where
  result : Except Error Built
  desk : Desk σ
  script : Option Script

/-- Calls steps one after the other, up to the first that cannot be resolved. -/
def callSteps (builder : ScriptBuilder) (r : Resolver) (script : Script) :
    List Step → Except Error (List ResolvedCall) × Script
  | [] => (.ok [], script)
  | s :: rest =>
    match r.resolveStep s with
    | (.error e, _) => (.error e, script)
    | (.ok c, r) =>
      let call := ScriptCall.ofResolved c
      let handles := builder.outputs script.calls call
      match callSteps builder (r.record s.label handles) (script.addCall call) rest with
      | (.error e, script) => (.error e, script)
      | (.ok cs, script) => (.ok (c :: cs), script)

/-- Makes the transaction of a graph whose report has no hard finding. -/
def assemble (builder : ScriptBuilder) (g : StepGraph) (signer : Int) (feePayer : Bool)
    (report : Report) : Except Error Built × Script :=
  match callSteps builder { signer } {} g.steps with
  | (.error e, script) => (.error e, script)
  | (.ok calls, script) =>
    let (transaction, script) := script.finish feePayer
    (.ok ⟨transaction, report, calls⟩, script)

/-- Builds the transaction of a graph. -/
def build {σ : Type} (src : Source σ) (builder : ScriptBuilder) (g : StepGraph) (signer : Int)
    (feePayer : Bool) (d : Desk σ) : Attempt σ :=
  if g.steps.isEmpty then ⟨.error .emptyGraph, d, none⟩
  else
    match validate src g d with
    | (.error e, d) => ⟨.error e, d, none⟩
    | (.ok report, d) =>
      if !report.ok then ⟨.error (.validationFailed report.errors), d, none⟩
      else
        let (result, script) := assemble builder g signer feePayer report
        ⟨result, d, some script⟩

end MovePlan.Compose
