import MovePlan.Graph.Resolution

/-!
# Scripts

A script is one transaction in the making: calls are added to it in order, each call answers with
handles on its outputs for later calls to take, and in the end the script is finished with or without
a separate payer of the fees. Which handles a call gives is up to the builder.
-/

namespace MovePlan.Compose

/-- A call as a script takes it. -/
structure ScriptCall where
  function : String
  typeArguments : List Json
  args : List Resolved
  deriving Inhabited

/-- The call of a resolved step. -/
def ScriptCall.ofResolved (c : ResolvedCall) : ScriptCall := ⟨c.function.text, c.typeArguments, c.args⟩

/-- What makes scripts: the handles that a call gives, from the calls before it. -/
structure ScriptBuilder where
  outputs : (before : List ScriptCall) → ScriptCall → List Handle

/-- A finished script. -/
structure Transaction where
  calls : List ScriptCall
  feePayer : Bool
  deriving Inhabited

/-- What is asked of a script. -/
inductive Script.Request where
  | add (call : ScriptCall)
  | finish (feePayer : Bool)
  deriving Inhabited

/-- The call that a request adds. -/
def Script.Request.call? : Script.Request → Option ScriptCall
  | add c => some c
  | finish _ => none

/-- A script, as what was asked of it so far. -/
structure Script where
  requests : List Script.Request := []
  deriving Inhabited

namespace Script

def calls (s : Script) : List ScriptCall := s.requests.filterMap Request.call?

def addCall (s : Script) (c : ScriptCall) : Script := ⟨s.requests ++ [.add c]⟩

/-- Finishes a script; the transaction holds the calls so far. -/
def finish (s : Script) (feePayer : Bool) : Transaction × Script :=
  (⟨s.calls, feePayer⟩, ⟨s.requests ++ [.finish feePayer]⟩)

end Script

end MovePlan.Compose
