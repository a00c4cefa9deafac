import MovePlan.Abi.Cache
import MovePlan.Validation.Checks

/-!
# Validation

A graph is validated against the signatures of the functions that it calls. Each function is looked
up once, with the structs of its return types after it; the lookups go on after a failed one. A
function that could not be fetched is a finding like one that is not there.
-/

namespace MovePlan.Validation

open Move Graph Abi

/-- What validation has to say about a graph. -/
structure Report where
  findings : List Finding := []
  /-- The signatures of the functions that were found. -/
  signatures : Signatures := []
  deriving Inhabited

namespace Report

def errors (r : Report) : List Finding := r.findings.filter Finding.isHard

def warnings (r : Report) : List Finding := r.findings.filter fun f => !f.isHard

/-- Whether there is no hard finding. -/
def ok (r : Report) : Bool := r.errors.isEmpty

def codes (r : Report) : List String := r.findings.map Finding.code

def fields (r : Report) : Json.Fields :=
  [("ok", .bool r.ok), ("errors", .arr (r.errors.map Finding.toJson)),
    ("warnings", .arr (r.warnings.map Finding.toJson))]

def toJson (r : Report) : Json := .obj r.fields

end Report

/-- What is known of a function: its signature, or none and perhaps the cause of a failure. -/
structure Fetched where
  signature : Option Signature
  cause : Option String := none
  deriving Inhabited

/-- The cause that a failed lookup gives. -/
def causeOf (url reason : String) (status : Option Int) : String :=
  if reason = "" then (Error.abiFetch url reason status).message else reason

variable {σ : Type}

/-- Looks a function up, and whether its outputs may be dropped. -/
def fetch (src : Source σ) (id : FunctionId) (d : Desk σ) : Except Error Fetched × Desk σ :=
  match d.function src id with
  | (.error (.abiFetch url reason status), d) => (.ok ⟨none, some (causeOf url reason status)⟩, d)
  | (.error e, d) => (.error e, d)
  | (.ok none, d) => (.ok ⟨none, none⟩, d)
  | (.ok (some sig), d) =>
    match droppableAll src sig.returns d with
    | (.error e, d) => (.error e, d)
    | (.ok flags, d) => (.ok ⟨some (sig.withDroppable flags), none⟩, d)

/-- Looks functions up one after the other, also after one that failed. -/
def fetchEach (src : Source σ) : List FunctionId → Desk σ →
    List (FunctionId × Except Error Fetched) × Desk σ
  | [], d => ([], d)
  | id :: rest, d =>
    let (here, d) := fetch src id d
    let (later, d) := fetchEach src rest d
    ((id, here) :: later, d)

/-- The answers, or the first failure among them. -/
def collect : List (FunctionId × Except Error Fetched) → Except Error (List (FunctionId × Fetched))
  | [] => .ok []
  | (id, answer) :: rest => do
    let fetched ← answer
    let later ← collect rest
    return (id, fetched) :: later

/-- The findings about the arguments of one step. -/
def checkFetched (s : Step) (f : Fetched) : Except Error (List Finding) :=
  match f.signature with
  | none => .ok [⟨s.label, .functionNotFound s.function f.cause⟩]
  | some sig => checkStep s sig

/-- The findings about the arguments of each step. -/
def checkSteps (known : FunctionId → Fetched) : List Step → Except Error (List Finding)
  | [] => .ok []
  | s :: rest => do
    let here ← checkFetched s (known s.function)
    let later ← checkSteps known rest
    return here ++ later

/-- What the answers tell of a function. -/
def knownIn (answers : List (FunctionId × Fetched)) (id : FunctionId) : Fetched :=
  (answers.lookup id).getD ⟨none, none⟩

/-- The signatures among the answers. -/
def signaturesIn (answers : List (FunctionId × Fetched)) : Signatures :=
  answers.filterMap fun a => a.2.signature.map fun sig => (a.1.text, sig)

/-- The steps whose signatures are known. -/
def checkedSteps (known : FunctionId → Fetched) (steps : List Step) : List (Step × Signature) :=
  steps.filterMap fun s => (known s.function).signature.map fun sig => (s, sig)

/-- The report on a graph from what is known of its functions. -/
def reportOn (g : StepGraph) (answers : List (FunctionId × Fetched)) : Except Error Report := do
  let known := knownIn answers
  let argumentFindings ← checkSteps known g.steps
  let refFindings ← checkRefs g (signaturesIn answers)
  let checked := checkedSteps known g.steps
  return ⟨argumentFindings ++ refFindings ++ checkConsumption g checked, signaturesIn answers⟩

/-- Validates a graph. -/
def validate (src : Source σ) (g : StepGraph) (d : Desk σ) : Except Error Report × Desk σ :=
  let (answers, d) := fetchEach src g.functionIds d
  (collect answers >>= reportOn g, d)

end MovePlan.Validation
