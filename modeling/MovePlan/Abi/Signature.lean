import MovePlan.Json.Coerce
import MovePlan.Move.TypeName

/-!
# Function signatures

What a call of a function needs and gives, as the module's interface describes it: the signers in
front, the other parameters, the number of type parameters, and the return types. Parameters and
return types that are no texts are passed over.
-/

namespace MovePlan.Abi

open Move

/-- The signature of a function. -/
structure Signature where
  /-- How many parameters in front stand for the signer. -/
  signers : Nat
  /-- The types of the other parameters. -/
  params : List String
  generics : Nat
  returns : List String
  /-- For each return type whether it may be dropped, if that is known; empty if not asked yet. -/
  droppable : List (Option Bool) := []
  deriving DecidableEq, Repr, Inhabited

/-- How many parameters in front stand for the signer. -/
def countSigners (params : List String) : Nat :=
  (params.takeWhile fun p => TypeName.signers.contains p).length

/-- The texts among the members of a field; none are there if the field is not given. -/
def textsOf (j : Json) : Except Error (List String) := do
  return (← j.membersIfGiven).filterMap Json.text?

/-- How many members a field has. -/
def countOf (j : Json) : Except Error Nat := do
  return (← j.membersIfGiven).length

namespace Signature

/-- The signature that an entry of a module's interface describes; an entry is an object. -/
def ofEntry (entry : Json) : Except Error Signature := do
  if !entry.isObject then throw .missingAttribute
  let params ← textsOf (entry.get "params")
  let generics ← countOf (entry.get "generic_type_params")
  let returns ← textsOf (entry.get "return")
  let signers := countSigners params
  return { signers, params := params.drop signers, generics, returns }

/-- The number of outputs of a call. -/
def arity (s : Signature) : Nat := s.returns.length

def withDroppable (s : Signature) (flags : List (Option Bool)) : Signature :=
  { s with droppable := flags }

/-- The outputs that are known not to be droppable. -/
def nonDroppable (s : Signature) : List Nat :=
  (List.range s.droppable.length).filter fun i => s.droppable[i]? == some (some false)

end Signature

end MovePlan.Abi
