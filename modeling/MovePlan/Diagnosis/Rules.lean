import MovePlan.Diagnosis.Abort
import MovePlan.Tracking.Expectation

/-!
# Diagnosis of failures

A failed status is put to a list of rules, and the first that applies tells what is wrong and what
to do. Rules about particular failures stand before the one about aborts as such. Letter case does
not matter. A status that no rule knows is shown as it is. The code of an abort in the status is read
first, and there is no diagnosis if that fails.
-/

namespace MovePlan.Diagnosis

/-- How bad it is. -/
inductive Severity where
  | error
  | warning
  deriving DecidableEq, Repr

def Severity.word : Severity → String
  | error => "error"
  | warning => "warning"

end MovePlan.Diagnosis

namespace MovePlan

open Diagnosis

/-- What is wrong, and what to do. -/
structure Diagnosis where
  severity : Severity := .error
  code : String
  title : String
  detail : String
  suggestion : String
  /-- The label of the step that it is about, null if it is about no step. -/
  step : Json := .null
  abort : Option Abort := none

end MovePlan

namespace MovePlan.Diagnosis

def toJson (d : Diagnosis) : Json :=
  let abort := match d.abort with
    | none => []
    | some a => [("abortCode", Json.nat a.code), ("abortLocation", .str a.location)]
  .obj ([("severity", .str d.severity.word), ("code", .str d.code), ("title", .str d.title),
    ("detail", .str d.detail), ("suggestion", .str d.suggestion),
    ("stepLabel", d.step)] ++ abort)

/-! ## Rules -/

open Text Tracking

/-- What a rule looks for in a status; texts are in small letters. -/
inductive Pattern where
  /-- One of the texts. -/
  | anyOf (texts : List String)
  /-- The first text, and the second after it in the same line. -/
  | inOrder (first second : String)
  deriving Repr

/-- The text up to the end of the line. -/
def restOfLine (s : List Char) : List Char := s.takeWhile (· != '\n')

/-- Whether the second text follows the first in the same line. -/
def holdsInOrder (first second : List Char) (s : List Char) : Bool :=
  (searchFrom (fun s =>
    match afterCaseless? first s with
    | some rest => if holdsCaseless second (restOfLine rest) then some () else none
    | none => none) s).isSome

def Pattern.holds (p : Pattern) (s : List Char) : Bool :=
  match p with
  | anyOf texts => texts.any fun t => holdsCaseless t.toList s
  | inOrder first second => holdsInOrder first.toList second.toList s

/-- A rule: what it looks for, and what is wrong then. -/
structure Rule where
  pattern : Pattern
  code : String
  title : String
  detail : String
  suggestion : String
  deriving Repr

/-- The rules, in the order in which they are tried. -/
def rules : List Rule :=
  [⟨.anyOf ["65540", "insufficient_balance"], "INSUFFICIENT_BALANCE", "Insufficient token balance",
    "The account does not hold enough of the requested token for this operation.",
    "Verify the wallet holds enough tokens. Check that prior steps produced sufficient output."⟩,
   ⟨.anyOf ["arithmetic_error"], "ARITHMETIC_OVERFLOW", "Arithmetic overflow in contract",
    "A math operation overflowed. Common when repay amount exceeds debt or swap amounts exceed " ++
      "pool liquidity.",
    "Check that repay amount <= outstanding debt. Verify swap amounts against pool liquidity."⟩,
   ⟨.anyOf ["out_of_gas"], "OUT_OF_GAS", "Transaction ran out of gas",
    "The max gas limit was exceeded. Composed transactions with many steps use more gas.",
    "Increase max_gas_amount or reduce the number of steps."⟩,
   ⟨.anyOf ["sequence_number"], "SEQUENCE_NUMBER_ERROR", "Sequence number mismatch",
    "The transaction sequence number doesn't match the account state. Usually means concurrent " ++
      "transactions.",
    "Wait for any pending transactions to finalize before retrying."⟩,
   ⟨.inOrder "repay" "exceed", "REPAY_EXCEEDS_DEBT", "Repay amount exceeds outstanding debt",
    "Attempting to repay more than the current debt amount. Use repay_all to handle exact " ++
      "amounts.",
    "Use repay_all_fa instead, or reduce the repay amount to match the actual debt."⟩,
   ⟨.anyOf ["insufficient_shares"], "INSUFFICIENT_SHARES", "Insufficient collateral shares",
    "Attempting to withdraw more collateral than is deposited.",
    "Reduce the withdrawal amount or use withdraw_all to withdraw everything."⟩,
   ⟨.anyOf ["sqrt_price"], "PRICE_LIMIT_ERROR", "Swap price limit exceeded",
    "The swap would move the price beyond the specified limit.",
    "Increase slippage tolerance or reduce swap amount."⟩,
   ⟨.anyOf ["lending"], "LENDING_ERROR", "Lending protocol error",
    "The lending protocol rejected the operation.",
    "Check: repay amount <= debt, withdrawal won't breach health factor, position exists."⟩,
   ⟨.anyOf ["pool_v3", "pool_v2"], "DEX_POOL_ERROR", "DEX pool operation failed",
    "The DEX pool rejected the swap operation.",
    "Check slippage tolerance, pool liquidity, and that the pool address is correct."⟩,
   ⟨.anyOf ["aborted"], "MOVE_ABORT", "Move module aborted execution",
    "A Move smart contract called abort(). The abort code indicates the specific failure.",
    "Check the abort code against the protocol's documentation or source code."⟩]

/-- The status of a transaction that went through. -/
def successStatus : String := "Executed successfully"

/-- What is wrong where a status is no success and tells of the given abort. -/
def explain (status : String) (step : Json) (abort : Option Abort) : Diagnosis :=
  match rules.find? fun r => r.pattern.holds status.toList with
  | some r => { code := r.code, title := r.title, detail := r.detail, suggestion := r.suggestion,
                step, abort }
  | none => { code := "UNKNOWN_ERROR", title := "Transaction failed"
              detail := "VM status: " ++ status
              suggestion := "Inspect the raw vm_status for details.", step, abort }

/-- The diagnosis of a status that is no success. -/
def diagnoseFailure (status : String) (step : Json) : Except Error Diagnosis := do
  let abort ← parseAbort status
  return explain status step abort

/-- The diagnosis of a status, none of an empty one or a success. -/
def diagnose (status : String) (step : Json) : Except Error (List Diagnosis) :=
  if status = "" ∨ status = successStatus then .ok []
  else (diagnoseFailure status step).map fun d => [d]

/-- The diagnosis of an outcome, none of one that went well. -/
def diagnoseOutcome (success : Bool) (status : String) (step : Json) : Except Error (List Diagnosis) :=
  if success then .ok [] else diagnose status step

/-- The warning about an expectation that failed. -/
def expectationWarning (v : Verdict) (step : Json) : Diagnosis where
  severity := .warning
  code := "EXPECTATION_FAILED"
  title := "Expectation failed: " ++ v.description.display
  detail := "Actual: " ++ v.actual
  suggestion := "Review the step inputs and expected outcomes."
  step := step

end MovePlan.Diagnosis
