import MovePlan.Simulation.Outcome
import MovePlan.Move.TypeName

/-!
# Events

An event has a type and data. Its amount is the field of that name, where it is an integer or spells
one; a plain zero, and what is no integer, count as no amount.
-/

namespace MovePlan.Simulation

open Move

/-- An event of an outcome. -/
structure Event where
  type : String
  amount : Option Int
  data : Json.Fields
  deriving Inhabited

namespace Event

/-- The amount that the data of an event show. -/
def amountOf (j : Json) : Option Int :=
  if j.isNull || j.display == "0" then none
  else match Json.amount "event amount" 0 j with
    | .ok n => some n
    | .error _ => none

def ofFields (fields : Json.Fields) : Event :=
  let data := ((valueIn fields "data").fields?).getD []
  { type := ((valueIn fields "type").orElse (.str "")).display
    amount := amountOf (valueIn data "amount")
    data }

/-- The last two parts of the event's type. -/
def shortType (e : Event) : String := TypeName.short e.type

def toJson (e : Event) : Json :=
  .obj [("type", .str e.type), ("shortType", .str e.shortType),
    ("amount", .ofOption .int e.amount), ("data", .obj e.data)]

end Event

/-- The events of an outcome. -/
def Outcome.parsedEvents (o : Outcome) : List Event := o.events.map Event.ofFields

end MovePlan.Simulation
