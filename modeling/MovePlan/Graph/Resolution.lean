import MovePlan.Graph.Basic
import MovePlan.Text.Digit

/-!
# Resolution of arguments

Steps are resolved in order, each argument into what a call takes: the signer, a value, or a handle
on an output of an earlier call. A step's outputs exist once its call is made and recorded, so a
reference to the step itself or to a later one finds none. An output that was moved is gone for every
later reference, and the first step to move it is remembered.

What was moved stays moved also when a later argument of the same step fails.
-/

namespace MovePlan

open Move Graph Text

/-! ## Literals -/

/-- The digits of a text that is decimal digits followed by `n`, with at most a line feed after it;
true if there is none. -/
def bigIntegerDigits? (s : List Char) : Option (List Char × Bool) :=
  let digits := s.takeWhile isDigit
  match s.dropWhile isDigit with
  | ['n'] => if digits.isEmpty then none else some (digits, true)
  | ['n', '\n'] => if digits.isEmpty then none else some (digits, false)
  | _ => none

/-- The value of a literal: a text of decimal digits followed by `n` is an integer, unless the digits
are too many, and everything else is itself. With a line feed after the `n` the digits are not read. -/
def decodeLiteral (value : Json) : Except Error Json :=
  match value with
  | .str s =>
    match bigIntegerDigits? s.toList with
    | none => .ok value
    | some (digits, last) =>
      if Numeric.digitLimit < digits.length then .error (.numeralTooLong digits.length)
      else if last then .ok (.nat (valueOf 10 digitValue? digits))
      else .error (.invalidInteger (String.ofList (digits ++ ['n'])))
  | _ => .ok value

/-! ## Handles -/

/-- A handle on an output of a call. -/
structure Handle where
  call : Int
  index : Int
  mode : Mode := .move
  deriving DecidableEq, Repr, Inhabited

/-- An argument as a call takes it. -/
inductive Resolved where
  | signer (index : Int)
  | value (v : Json)
  | handle (h : Handle)
  deriving Inhabited

/-- A call with its arguments. -/
structure ResolvedCall where
  label : String
  function : FunctionId
  typeArguments : List Json
  args : List Resolved
  deriving Inhabited

/-! ## The resolver -/

/-- What has been recorded and moved so far. -/
structure Resolver where
  signer : Int := 0
  /-- The handles on each step's outputs, in order of the steps' first recording. -/
  outputs : List (String × List Handle) := []
  /-- The outputs that are gone, each with the step that moved it. -/
  moved : List ((String × Nat) × String) := []

namespace Resolver

/-- Sets the value of a key: in place if the key is there, else at the end. -/
def setOutputs (label : String) (handles : List Handle) :
    List (String × List Handle) → List (String × List Handle)
  | [] => [(label, handles)]
  | (k, v) :: rest =>
    if k = label then (k, handles) :: rest else (k, v) :: setOutputs label handles rest

/-- Records the handles on a step's outputs. -/
def record (r : Resolver) (label : String) (handles : List Handle) : Resolver :=
  { r with outputs := setOutputs label handles r.outputs }

def outputs? (r : Resolver) (label : String) : Option (List Handle) := r.outputs.lookup label

def recordedLabels (r : Resolver) : List String := r.outputs.map Prod.fst

/-- The step that moved an output. -/
def mover? (r : Resolver) (target : String × Nat) : Option String := r.moved.lookup target

/-- The outputs that are gone. -/
def consumed (r : Resolver) : List (String × Nat) := r.moved.map Prod.fst

/-- Puts an output before the first greater one: by label, then by index. -/
def insertTarget (t : String × Nat) : List (String × Nat) → List (String × Nat)
  | [] => [t]
  | u :: rest =>
    if t.1 < u.1 ∨ (t.1 = u.1 ∧ t.2 < u.2) then t :: u :: rest else u :: insertTarget t rest

/-- The outputs that are gone, in ascending order. -/
def consumedInOrder (r : Resolver) : List (String × Nat) := r.consumed.foldr insertTarget []

/-- The indices of a step's outputs that are not gone. -/
def remaining (r : Resolver) (label : String) : List Nat :=
  (List.range ((r.outputs? label).getD []).length).filter fun i => (r.mover? (label, i)).isNone

/-- The error of a reference to an output that the step does not have. It tells of the index, if that
has a text. -/
def outOfBounds (ref : Ref) (arity : Nat) (user : String) : Error :=
  if Numeric.hasText ref.index then .returnIndexOutOfBounds ref.step ref.index arity user
  else .tooManyDigits

/-- Resolves a reference for the step `user`. -/
def resolveRef (r : Resolver) (ref : Ref) (user : String) : Except Error Handle × Resolver :=
  match r.outputs? ref.step with
  | none => (.error (.unknownStep (.str ref.step) user r.recordedLabels), r)
  | some handles =>
    match handles[ref.index]? with
    | none => (.error (outOfBounds ref handles.length user), r)
    | some handle =>
      match r.mover? ref.target with
      | some mover => (.error (.alreadyMoved ref.step ref.index mover user), r)
      | none =>
        if ref.mode = .move then (.ok handle, { r with moved := r.moved ++ [(ref.target, user)] })
        else (.ok { handle with mode := ref.mode }, r)

/-- Resolves one argument for the step `user`. -/
def resolveArg (r : Resolver) (arg : Arg) (user : String) : Except Error Resolved × Resolver :=
  match arg with
  | .signer => (.ok (.signer r.signer), r)
  | .literal v =>
    match decodeLiteral v with
    | .ok v => (.ok (.value v), r)
    | .error e => (.error e, r)
  | .ref ref =>
    match r.resolveRef ref user with
    | (.ok h, r) => (.ok (.handle h), r)
    | (.error e, r) => (.error e, r)
  | .strayRef (.arr _) _ _ | .strayRef (.obj _) _ _ => (.error .wrongType, r)
  | .strayRef step _ _ => (.error (.unknownStep step user r.recordedLabels), r)
  | .foreign _ => (.error .wrongType, r)

/-- Resolves arguments from the left up to the first that fails. -/
def resolveArgs (r : Resolver) (user : String) : List Arg → Except Error (List Resolved) × Resolver
  | [] => (.ok [], r)
  | a :: rest =>
    match r.resolveArg a user with
    | (.error e, r) => (.error e, r)
    | (.ok x, r) =>
      match r.resolveArgs user rest with
      | (.error e, r) => (.error e, r)
      | (.ok xs, r) => (.ok (x :: xs), r)

/-- Resolves the arguments of a step. -/
def resolveStep (r : Resolver) (s : Step) : Except Error ResolvedCall × Resolver :=
  match r.resolveArgs s.label s.args with
  | (.error e, r) => (.error e, r)
  | (.ok args, r) => (.ok ⟨s.label, s.function, s.typeArguments, args⟩, r)

end Resolver

/-! ## Whole graphs -/

/-- The handles on the outputs of a call that has `arity` of them. -/
def placeholders (call arity : Nat) : List Handle :=
  (List.range arity).map fun i : Nat => ⟨call, i, .move⟩

/-- Resolves steps from the call number `call` on, each step having as many outputs as `arity`
tells once it is resolved. -/
def resolveSteps (arity : Step → Except Error Nat) (r : Resolver) (call : Nat) :
    List Step → Except Error (List ResolvedCall) × Resolver
  | [] => (.ok [], r)
  | s :: rest =>
    match r.resolveStep s with
    | (.error e, r) => (.error e, r)
    | (.ok c, r) =>
      match arity s with
      | .error e => (.error e, r)
      | .ok n =>
        match resolveSteps arity (r.record s.label (placeholders call n)) (call + 1) rest with
        | (.error e, r) => (.error e, r)
        | (.ok later, r) => (.ok (c :: later), r)

/-- Resolves a graph without making any call, and what is recorded and moved then. -/
def StepGraph.resolveAll (g : StepGraph) (arity : Step → Except Error Nat) (signer : Int) :
    Except Error (List ResolvedCall) × Resolver :=
  resolveSteps arity { signer } 0 g.steps

/-- Resolves a graph without making any call. -/
def StepGraph.resolve (g : StepGraph) (arity : Step → Except Error Nat) (signer : Int) :
    Except Error (List ResolvedCall) :=
  (g.resolveAll arity signer).1

/-- A number of outputs from an untyped value; a negative one counts as zero. -/
def arityOf (j : Json) : Except Error Nat :=
  match j with
  | .int n => .ok n.toNat
  | .bool b => .ok b.toNat
  | _ => .error .wrongType

/-- The arities that a table gives, and for the other steps what references ask of them. -/
def StepGraph.arityFrom (g : StepGraph) (table : Json.Fields) (s : Step) : Except Error Nat :=
  match Json.field? s.label table with
  | some j => arityOf j
  | none => .ok (g.demandedArity s.label)

end MovePlan
