import MovePlan.Json.Coerce

/-!
# Outcomes of simulations

What a node answers when a transaction is simulated: whether it succeeded, the status of the virtual
machine, the gas, the writes and the events. A list of answers stands for its first one. Writes and
events that are no objects are passed over.
-/

namespace MovePlan.Simulation

open Numeric

/-- The gas price that is taken when the answer has none. -/
def defaultGasPrice : Int := 100

/-- How many of the smallest units one coin has. -/
def unitsPerCoin : Int := 100000000

/-- The outcome of a simulated transaction. -/
structure Outcome where
  success : Bool
  status : String
  gasUsed : Int
  gasPrice : Int
  changes : List Json.Fields
  events : List Json.Fields
  raw : Json
  deriving Inhabited

/-- The value of a field of an object's fields, null if there is none. -/
def valueIn (fields : Json.Fields) (key : String) : Json := (Json.field? key fields).getD .null

/-- The objects of a list; none of other values. -/
def objectsOf (j : Json) : List Json.Fields :=
  match j with
  | .arr xs => xs.filterMap Json.fields?
  | _ => []

namespace Outcome

/-- The outcome from the fields of an answer. -/
def ofFields (fields : Json.Fields) : Except Error Outcome := do
  let gasUsed ← Json.amount "gas_used" 0 ((valueIn fields "gas_used").orElse (.int 0))
  let gasPrice ← Json.amount "gas_unit_price" 0
    ((valueIn fields "gas_unit_price").orElse (.int defaultGasPrice))
  return {
    success := (valueIn fields "success").given
    status := ((valueIn fields "vm_status").orElse (.str "")).display
    gasUsed
    gasPrice
    changes := objectsOf (valueIn fields "changes")
    events := objectsOf (valueIn fields "events")
    raw := .obj fields }

/-- The outcome that one answer describes. -/
def ofAnswer (j : Json) : Except Error Outcome :=
  match j with
  | .obj fields => ofFields fields
  | j => .error (.responseNotObject j.kindWord)

/-- The outcome that a response describes. -/
def ofResponse (j : Json) : Except Error Outcome :=
  match j with
  | .arr [] => .error .emptyResponse
  | .arr (first :: _) => ofAnswer first
  | j => ofAnswer j

/-- The price of the gas in coins. -/
def gasCost (o : Outcome) : Except Error Binary64 :=
  match Binary64.divInt? (o.gasUsed * o.gasPrice) unitsPerCoin with
  | some x => .ok x
  | none => .error .overflow

end Outcome

end MovePlan.Simulation
