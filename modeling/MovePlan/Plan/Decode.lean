import MovePlan.Graph.Resolution
import MovePlan.Plan.Token

/-!
# Plans from JSON

A plan is an object with a list of steps and perhaps one of tokens. Its parts are checked in the
order in which they are read: the tokens first, then each step with its label, function, type
arguments and arguments. A fault of form names the place where it is. Integers that are too wide for
JSON numbers are written as decimal digits followed by `n`.
-/

namespace MovePlan.Plan

open Graph

/-- A graph, the tokens to keep track of, and the corrections that were made before. -/
structure Document where
  graph : StepGraph := .empty
  tokens : List Token := []
  deriving Inhabited

/-- A fault of form at a place of the plan. -/
def fault {α : Type} (path reason : String) : Except Error α := .error (.planDecode path reason)

/-- A field that has to be a text, and not empty. -/
def textAt (path : String) (j : Json) : Except Error String :=
  match j with
  | .str s => if s = "" then fault path "must be a non-empty string" else .ok s
  | _ => fault path "must be a non-empty string"

/-- A field that has to be an integer, and not negative. -/
def naturalAt (path : String) (j : Json) : Except Error Nat :=
  match j with
  | .int n => if 0 ≤ n then .ok n.toNat else fault path "must be a non-negative integer"
  | _ => fault path "must be a non-negative integer"

def decodeToken (path : String) (j : Json) : Except Error Token := do
  if !j.isObject then fault path "token must be an object"
  let symbol ← textAt s!"{path}.symbol" (j.get "symbol")
  let metadata ← textAt s!"{path}.metadata" (j.get "metadata")
  let decimals ← naturalAt s!"{path}.decimals" (j.get "decimals")
  return ⟨symbol, metadata, decimals⟩

/-- The value of a literal: a text, an integer, true or false; a floating-point number counts if it
is an integer. -/
def literalAt (path : String) (j : Json) : Except Error Json :=
  match j with
  | .float x =>
    match x.truncate? with
    | some n =>
      if x.isInteger then .ok (.int n) else fault path "non-integer numbers are not supported"
    | none => fault path "non-integer numbers are not supported"
  | .str _ | .int _ | .bool _ => .ok j
  | _ => fault path s!"unsupported literal type {j.kindWord}"

/-- The mode of a reference; `move` if there is none. A mode that could not be looked up at all is
of the wrong type. -/
def modeAt (path : String) (j : Option Json) : Except Error Mode :=
  match j with
  | none => .ok .move
  | some (.arr _) | some (.obj _) => .error .wrongType
  | some j =>
    match j.text?.bind Mode.ofWord? with
    | some m => .ok m
    | none =>
      fault path
        s!"must be one of ['borrow', 'borrow_mut', 'copy', 'move'], got {j.quotedText}"

def decodeArg (path : String) (j : Json) : Except Error Arg := do
  if !j.isObject then fault path "argument must be an object"
  match (j.get "kind").text? with
  | some "signer" => return .signer
  | some "literal" =>
    match j.get? "value" with
    | none => fault path "literal requires 'value'"
    | some v =>
      let v ← literalAt s!"{path}.value" v
      return .literal (← decodeLiteral v)
  | some "ref" =>
    let step ← textAt s!"{path}.step" (j.get "step")
    let index ← naturalAt s!"{path}.returnIndex" (j.get "returnIndex")
    let mode ← modeAt s!"{path}.mode" (j.get? "mode")
    return .ref ⟨step, index, mode⟩
  | _ =>
    let kind := (j.get "kind").quotedText
    fault s!"{path}.kind" s!"unknown argument kind {kind}"

/-- Decodes the items of a list, each at the place `path[i]`. -/
def decodeEach {α : Type} (decode : String → Json → Except Error α) (path : String) (i : Nat) :
    List Json → Except Error (List α)
  | [] => .ok []
  | j :: rest => do
    let a ← decode s!"{path}[{i}]" j
    let as ← decodeEach decode path (i + 1) rest
    return a :: as

/-- The type arguments of a step: a list of texts, empty if the field is not given. -/
def typeArgumentsAt (path : String) (j : Json) : Except Error (List Json) :=
  if !j.given then .ok []
  else match j with
    | .arr xs =>
      if xs.all fun x => x.text?.isSome then .ok xs else fault path "must be a list of strings"
    | _ => fault path "must be a list of strings"

/-- The fields of a step. -/
def decodeStep (path : String) (j : Json) : Except Error StepGraph.Draft := do
  if !j.isObject then fault path "step must be an object"
  let label ← textAt s!"{path}.label" (j.get "label")
  let function ← match j.get "function" with
    | .str f => pure f
    | _ => fault s!"{path}.function" "must be a string"
  let typeArguments ← typeArgumentsAt s!"{path}.typeArguments" (j.get "typeArguments")
  let args ← match j.get "args" with
    | .arr xs => decodeEach decodeArg s!"{path}.args" 0 xs
    | _ => fault s!"{path}.args" "required list is missing"
  return ⟨.str label, .field (.str function), .arr typeArguments, args⟩

/-- Decodes steps and adds them to a graph one after the other. -/
def decodeSteps (i : Nat) : List Json → StepGraph → Except Error StepGraph
  | [], g => .ok g
  | j :: rest, g => do
    let draft ← decodeStep s!"$.steps[{i}]" j
    let g ← g.add draft
    decodeSteps (i + 1) rest g

def decodeTokens (j : Json) : Except Error (List Token) :=
  match j with
  | .null => .ok []
  | .arr xs => decodeEach decodeToken "$.tokens" 0 xs
  | _ => fault "$.tokens" "must be a list"

/-- Decodes a plan. -/
def decode (j : Json) : Except Error Document := do
  if !j.isObject then fault "$" "plan must be an object"
  match j.get "steps" with
  | .arr steps =>
    let tokens ← decodeTokens (j.get "tokens")
    let graph ← decodeSteps 0 steps .empty
    return ⟨graph, tokens⟩
  | _ => fault "$.steps" "required list is missing"

end MovePlan.Plan
