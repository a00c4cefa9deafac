import MovePlan.Graph.Step
import MovePlan.Json.Coerce

/-!
# Step graphs

A graph is a list of steps whose labels are distinct and not empty; references between steps are its
edges. A step is added from untyped fields, as a plan or a caller gives them, and either stands at the
end afterwards or leaves the graph as it was.
-/

namespace MovePlan

open Move Graph

/-- An ordered list of labelled steps. -/
structure StepGraph where
  steps : List Step := []
  label_ne_empty : ∀ s ∈ steps, s.label ≠ "" := by simp
  nodup_labels : (steps.map Step.label).Nodup := by simp

namespace StepGraph

/-- The graph without steps. -/
def empty : StepGraph := {}

instance : Inhabited StepGraph := ⟨empty⟩

def labels (g : StepGraph) : List String := g.steps.map Step.label

def size (g : StepGraph) : Nat := g.steps.length

/-- The step with the label. -/
def get? (g : StepGraph) (label : String) : Option Step := g.steps.find? fun s => s.label == label

/-- The place of the step with the label. -/
def indexOf? (g : StepGraph) (label : String) : Option Nat :=
  g.steps.findIdx? fun s => s.label == label

def contains (g : StepGraph) (label : String) : Bool := g.steps.any fun s => s.label == label

/-- The list without the items that came before in it. -/
def distinct {α : Type} [BEq α] : List α → List α
  | [] => []
  | x :: rest => x :: (distinct rest).filter fun y => !(y == x)

/-- The functions that the steps call, each once, in order of first use. -/
def functionIds (g : StepGraph) : List FunctionId := distinct (g.steps.map Step.function)

/-- Every reference to an output, with the step that holds it. -/
def refsTo (g : StepGraph) (label : String) (index : Nat) : List (Step × Ref) :=
  g.steps.flatMap fun s =>
    (s.refs.filter fun r => r.step == label && r.index == index).map fun r => (s, r)

/-- One more than the highest index that any reference asks of a step; zero if none does. -/
def demandedArity (g : StepGraph) (label : String) : Nat :=
  g.steps.foldl (fun n s =>
    (s.refs.filter fun r => r.step == label).foldl (fun n r => max n (r.index + 1)) n) 0

/-! ## Adding steps -/

/-- A function as a step is given it: an untyped field, or a function id made before. -/
inductive Callee where
  | field (j : Json)
  | id (f : FunctionId)

/-- The fields of a step before they are checked. -/
structure Draft where
  label : Json
  function : Callee
  typeArguments : Json := .null
  args : List Arg := []

/-- A function id from an untyped field. -/
def functionOf (j : Json) : Except Error FunctionId :=
  match j with
  | .str s =>
    match FunctionId.parse s with
    | .ok id => .ok id
    | .error fault => .error (.malformedFunctionId s fault.reason)
  | j => .error (.malformedFunctionId j.quotedText "not a string")

/-- The function id that a step is given or that its field spells. -/
def Callee.resolve : Callee → Except Error FunctionId
  | field j => functionOf j
  | id f => .ok f

/-- A label from an untyped field: a text that is not empty. -/
def labelOf (j : Json) : Except Error { s : String // s ≠ "" } :=
  match j with
  | .str s => if h : s = "" then .error (.invalidLabel j) else .ok ⟨s, h⟩
  | j => .error (.invalidLabel j)

/-- The graph with one more step at the end, under a label that no step has. -/
def extend (g : StepGraph) (s : Step) (hs : s.label ≠ "") (hg : g.contains s.label = false) :
    StepGraph where
  steps := g.steps ++ [s]
  label_ne_empty t ht := by
    rcases List.mem_append.mp ht with ht | ht
    · exact g.label_ne_empty t ht
    · rw [List.mem_singleton.mp ht]
      exact hs
  nodup_labels := by
    have hnew : s.label ∉ g.steps.map Step.label := by
      intro hm
      obtain ⟨t, ht, hts⟩ := List.mem_map.mp hm
      have := List.any_eq_false.mp hg t ht
      simp [hts] at this
    rw [List.map_append, List.nodup_append]
    refine ⟨g.nodup_labels, by simp, ?_⟩
    intro a ha b hb hab
    rw [List.map_singleton, List.mem_singleton] at hb
    exact hnew (hb ▸ hab ▸ ha)

/-- Adds a step at the end. The label is checked first, then the function, then the rest. -/
def add (g : StepGraph) (d : Draft) : Except Error StepGraph := do
  let ⟨label, hl⟩ ← labelOf d.label
  if hg : g.contains label then throw (.duplicateLabel label)
  else
    let function ← d.function.resolve
    let typeArguments ← d.typeArguments.membersIfGiven
    return g.extend ⟨label, function, typeArguments, d.args⟩ hl (by simpa using hg)

end StepGraph

/-! ## Arguments from untyped fields -/

namespace Graph

/-- A mode from an untyped field. -/
def modeOf (j : Json) : Except Error Mode :=
  match j with
  | .str s =>
    match Mode.ofWord? s with
    | some m => .ok m
    | none => .error (.invalidMode j)
  | j => .error (.invalidMode j)

/-- An output index from an untyped field: an integer that is not negative. -/
def returnIndexOf (j : Json) : Except Error Nat :=
  match j with
  | .int n => if 0 ≤ n then .ok n.toNat else .error (.invalidReturnIndex j)
  | j => .error (.invalidReturnIndex j)

/-- A reference to a target that may be no text. -/
def refTo (step : Json) (index : Nat) (mode : Mode) : Arg :=
  match step with
  | .str s => .ref ⟨s, index, mode⟩
  | j => .strayRef j index mode

/-- A reference from its fields, the mode being checked before the index. -/
def refOfWord (step index mode : Json) : Except Error Arg := do
  let mode ← modeOf mode
  let index ← returnIndexOf index
  return refTo step index mode

/-- A reference from its fields, the index being checked before the mode. -/
def refOfFields (step index mode : Json) : Except Error Arg := do
  let index ← returnIndexOf index
  let mode ← modeOf mode
  return refTo step index mode

end Graph

end MovePlan
