import MovePlan.Json.Coerce

/-!
# Payloads

A single call that is a transaction of its own. Integers among its arguments travel as decimal texts,
because a node's numbers are too narrow for them. One with too many digits has no text and stays, so
that the payload cannot be written.
-/

namespace MovePlan.Flow

/-- A call of an entry function. -/
structure Payload where
  /-- The function's id; a text as a rule. -/
  function : Json
  typeArguments : List Json := []
  args : List Json := []
  deriving Inhabited

namespace Payload

/-- A payload from untyped fields: arguments are the members of what is given for them. -/
def ofFields (function typeArguments args : Json) : Except Error Payload := do
  return ⟨function, ← typeArguments.membersIfGiven, ← args.membersIfGiven⟩

/-- An argument as it is sent. -/
def sent : Json → Json
  | .int n => if Numeric.hasText n then .str (String.ofList (Numeric.intText n)) else .int n
  | j => j

def toJson (p : Payload) : Json :=
  .obj [("function", p.function), ("type_arguments", .arr p.typeArguments),
    ("arguments", .arr (p.args.map sent))]

end Payload

end MovePlan.Flow
