import MovePlan.Abi.Signature
import MovePlan.Graph.Basic
import MovePlan.Validation.Finding

/-!
# Checks of a graph against signatures

Three walks. The first compares each step's arguments with its function's signature. The second
follows the references in order: each has to name a step that is declared before, an output that the
step has, and one that no earlier reference moved; a reference that fails one test is not put to the
next. The third looks at the outputs that must not be lost: each has to be moved by some reference.
-/

namespace MovePlan.Validation

open Move Graph Abi

/-! ## Arguments -/

/-- The findings about the signer at one position. An argument without a kind has no word to be
shown where a signer is expected. -/
def checkPosition (sig : Signature) (label : String) (position : Nat) (a : Arg) :
    Except Error (List Finding) :=
  if position < sig.signers then
    if a.isSigner then .ok []
    else match a.kind? with
      | some kind => .ok [⟨label, .signerExpected position kind⟩]
      | none => .error .missingAttribute
  else if a.isSigner then
    let type := (sig.params[position - sig.signers]?).getD "unknown"
    .ok [⟨label, .signerMisplaced position type⟩]
  else .ok []

/-- The findings about the signers from a position on. -/
def checkPositions (sig : Signature) (label : String) (position : Nat) :
    List Arg → Except Error (List Finding)
  | [] => .ok []
  | a :: rest => do
    let here ← checkPosition sig label position a
    let later ← checkPositions sig label (position + 1) rest
    return here ++ later

/-- One finding if two counts differ. -/
def checkCount (label : String) (issue : Nat → Nat → Issue) (expected given : Nat) : List Finding :=
  if given = expected then [] else [⟨label, issue expected given⟩]

/-- The findings about the arguments of a step. -/
def checkStep (s : Step) (sig : Signature) : Except Error (List Finding) := do
  let positions ← checkPositions sig s.label 0 s.args
  return checkCount s.label .typeArgumentCount sig.generics s.typeArguments.length
    ++ checkCount s.label .signerCount sig.signers s.signerArgs.length
    ++ checkCount s.label .argumentCount sig.params.length s.otherArgs.length
    ++ positions

/-! ## References -/

/-- What the walk over the references has seen. -/
structure RefWalk where
  /-- The steps before the present one. -/
  declared : List String := []
  /-- The moved outputs, each with the step that moved it first. -/
  moved : List ((String × Nat) × String) := []

/-- The finding about one reference of the step `label`, and the walk after it. -/
def checkRef (arity : String → Option Nat) (label : String) (r : Ref) (w : RefWalk) :
    Option Issue × RefWalk :=
  if !w.declared.contains r.step then (some (.referenceOrder (.str r.step)), w)
  else
    match arity r.step with
    | some n =>
      if n ≤ r.index then (some (.returnIndex r.step n r.index), w) else checkMove w
    | none => checkMove w
where
  checkMove (w : RefWalk) : Option Issue × RefWalk :=
    match w.moved.lookup r.target with
    | some mover => (some (.repeatedMove r.step r.index r.mode mover), w)
    | none =>
      if r.mode = .move then (none, { w with moved := w.moved ++ [(r.target, label)] })
      else (none, w)

/-- Whether an issue can be put into words: an index that it tells of has a text. -/
def Issue.isTellable : Issue → Bool
  | .returnIndex _ _ index | .repeatedMove _ index _ _ => Numeric.hasText index
  | _ => true

/-- The finding about one argument, if it is a reference. -/
def checkArg (arity : String → Option Nat) (label : String) (a : Arg) (w : RefWalk) :
    Except Error (Option Issue × RefWalk) :=
  match a with
  | .ref r =>
    let (issue, w) := checkRef arity label r w
    if issue.all Issue.isTellable then .ok (issue, w) else .error .tooManyDigits
  | .strayRef (.arr _) _ _ | .strayRef (.obj _) _ _ => .error .wrongType
  | .strayRef step _ _ => .ok (some (.referenceOrder step), w)
  | _ => .ok (none, w)

/-- The findings about the references of a step. -/
def checkArgs (arity : String → Option Nat) (label : String) :
    List Arg → RefWalk → Except Error (List Finding × RefWalk)
  | [], w => .ok ([], w)
  | a :: rest, w => do
    let (issue, w) ← checkArg arity label a w
    let (later, w) ← checkArgs arity label rest w
    return ((issue.toList.map fun i => ⟨label, i⟩) ++ later, w)

/-- The findings about the references of the steps from here on. -/
def checkRefsFrom (arity : String → Option Nat) : List Step → RefWalk → Except Error (List Finding)
  | [], _ => .ok []
  | s :: rest, w => do
    let (here, w) ← checkArgs arity s.label s.args w
    let later ← checkRefsFrom arity rest { w with declared := w.declared ++ [s.label] }
    return here ++ later

/-- The signatures that were found, by function. -/
abbrev Signatures := List (String × Signature)

/-- The number of outputs of the step with the label, if its signature is known. -/
def arityIn (g : StepGraph) (signatures : Signatures) (label : String) : Option Nat := do
  let producer ← g.get? label
  let sig ← signatures.lookup producer.function.text
  return sig.arity

/-- The findings about the references of a graph. -/
def checkRefs (g : StepGraph) (signatures : Signatures) : Except Error (List Finding) :=
  checkRefsFrom (arityIn g signatures) g.steps {}

/-! ## Outputs that must not be lost -/

/-- The finding about one output that must not be lost. -/
def checkOutput (g : StepGraph) (label : String) (sig : Signature) (index : Nat) : List Finding :=
  let refs := g.refsTo label index
  let type := (sig.returns[index]?).getD ""
  if refs.isEmpty then [⟨label, .unconsumed index type⟩]
  else if refs.any fun u => u.2.mode == .move then []
  else [⟨label, .unmoved index type (refs.map fun u => (u.1.label, u.2.mode))⟩]

/-- The findings about the outputs of the steps whose signatures are known. -/
def checkConsumption (g : StepGraph) (known : List (Step × Signature)) : List Finding :=
  known.flatMap fun k => k.2.nonDroppable.flatMap (checkOutput g k.1.label k.2)

end MovePlan.Validation
