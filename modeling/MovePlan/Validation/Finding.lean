import MovePlan.Graph.Step
import MovePlan.Json.Display

/-!
# Findings

What the validator has to say about a step. A finding whose code ends in `_ERROR` is hard: no
transaction is built while there is one. The others are advice.
-/

namespace MovePlan.Validation

open Move Graph

/-- What is the matter with a step. -/
inductive Issue where
  /-- The function is not on chain, or the lookup failed for a cause. -/
  | functionNotFound (function : FunctionId) (cause : Option String)
  | typeArgumentCount (expected given : Nat)
  | signerCount (expected given : Nat)
  | argumentCount (expected given : Nat)
  /-- A reference to a step that is not declared before; the step itself, or another. -/
  | referenceOrder (target : Json)
  | returnIndex (producer : String) (arity index : Nat)
  | repeatedMove (producer : String) (index : Nat) (mode : Mode) (mover : String)
  /-- A parameter that stands for the signer got something else. -/
  | signerExpected (position : Nat) (kind : String)
  /-- A signer stands where a parameter of this type is. -/
  | signerMisplaced (position : Nat) (type : String)
  /-- An output that must not be lost is not used. -/
  | unconsumed (index : Nat) (type : String)
  /-- An output that must not be lost is used but never moved. -/
  | unmoved (index : Nat) (type : String) (users : List (String × Mode))
  /-- A finding from elsewhere, with its own code and message. -/
  | other (code message : String)

/-- An issue and the step that has it. -/
structure Finding where
  step : String
  issue : Issue

namespace Issue

def code : Issue → String
  | functionNotFound .. => "FUNCTION_NOT_FOUND_ERROR"
  | typeArgumentCount .. => "TYPE_ARG_COUNT_ERROR"
  | signerCount .. => "SIGNER_COUNT_ERROR"
  | argumentCount .. => "ARG_COUNT_ERROR"
  | referenceOrder _ => "REF_ORDER_ERROR"
  | returnIndex .. => "RETURN_INDEX_ERROR"
  | repeatedMove .. => "DUPLICATE_MOVE_ERROR"
  | signerExpected .. | signerMisplaced .. => "SIGNER_MISMATCH"
  | unconsumed .. => "UNCONSUMED_RESOURCE"
  | unmoved .. => "UNMOVED_RESOURCE"
  | other code _ => code

/-- The message about an issue of the step with the given label. -/
def message (label : String) : Issue → String
  | functionNotFound f none => s!"Function \"{f.text}\" not found on-chain"
  | functionNotFound f (some cause) => s!"Function \"{f.text}\" could not be fetched: {cause}"
  | typeArgumentCount expected given =>
    s!"Step \"{label}\": expected {expected} type argument(s), got {given}"
  | signerCount expected given => s!"Step \"{label}\": expected {expected} signer(s), got {given}"
  | argumentCount expected given =>
    s!"Step \"{label}\": expected {expected} non-signer argument(s), got {given}"
  | referenceOrder target =>
    let whom := match target with
      | .str t => if t = label then "itself" else s!"\"{t}\", which is not declared before it"
      | t => s!"\"{t.display}\", which is not declared before it"
    s!"Step \"{label}\" references {whom}"
  | returnIndex producer arity index =>
    s!"Step \"{producer}\" has {arity} return value(s), but index {index} " ++
      s!"was requested by step \"{label}\""
  | repeatedMove producer index mode mover =>
    let used := s!"{producer}[{index}] ({mode.word})"
    s!"Step \"{label}\" uses {used} after step \"{mover}\" already moved it"
  | signerExpected position kind =>
    s!"Step \"{label}\" arg {position}: expected a signer for the &signer parameter, got {kind}"
  | signerMisplaced position type =>
    s!"Step \"{label}\" arg {position}: signer supplied but parameter type is \"{type}\"; " ++
      "pass the address as a literal instead"
  | unconsumed index type =>
    s!"Step \"{label}\" return[{index}] ({type}) is non-droppable but not consumed by " ++
      "any subsequent step; add a deposit or use step"
  | unmoved index type users =>
    let names := ", ".intercalate (users.map fun u => s!"\"{u.1}\" ({u.2.word})")
    s!"Step \"{label}\" return[{index}] ({type}) is non-droppable and only used by " ++
      s!"{names}; no step moves it"
  | other _ message => message

end Issue

/-- Whether a code is that of a hard finding. -/
def isHardCode (code : String) : Bool := code.endsWith "_ERROR"

namespace Finding

def code (f : Finding) : String := f.issue.code

def message (f : Finding) : String := f.issue.message f.step

def isHard (f : Finding) : Bool := isHardCode f.code

/-- A finding as JSON, from its parts. -/
def row (step : Json) (code message : String) : Json :=
  .obj [("stepLabel", step), ("code", .str code), ("message", .str message),
    ("isHardError", .bool (isHardCode code))]

def toJson (f : Finding) : Json := row (.str f.step) f.code f.message

end Finding

end MovePlan.Validation
