import MovePlan.Graph.Basic

/-!
# Registers

A graph finds a step by going through its steps. A register keeps an index of the labels beside the steps
and looks there. Both are written when a step is added, first the index and then the steps; a call that
fails ends where it fails, and what was written until then stays.
-/

namespace MovePlan

open Graph

/-- Steps, and beside them an index from labels to places. -/
structure Register where
  steps : List Step := []
  /-- The places under their labels; an entry hides the later ones of its label. -/
  index : List (String × Nat) := []

namespace Register

/-- The place that the index has for a label. -/
def indexOf? (r : Register) (label : String) : Option Nat := r.index.lookup label

/-- The step at the place that the index has for a label. -/
def get? (r : Register) (label : String) : Option Step := do
  let i ← r.indexOf? label
  r.steps[i]?

def contains (r : Register) (label : String) : Bool := (r.indexOf? label).isSome

/-- Adds a step at the end. The label is checked first, then the function, then the rest. -/
def add (d : StepGraph.Draft) : ExceptT Error (StateM Register) Unit := do
  let ⟨label, _⟩ ← StepGraph.labelOf d.label
  if (← get).contains label then throw (.duplicateLabel label)
  let function ← d.function.resolve
  let typeArguments ← d.typeArguments.membersIfGiven
  modify fun r => { r with index := (label, r.steps.length) :: r.index }
  modify fun r => { r with steps := r.steps ++ [⟨label, function, typeArguments, d.args⟩] }

/-- Adds steps one after the other, whether or not those before were refused. -/
def addEach (ds : List StepGraph.Draft) : StateM Register (List (Except Error Unit)) :=
  ds.mapM fun d => (add d).run

end Register

end MovePlan
