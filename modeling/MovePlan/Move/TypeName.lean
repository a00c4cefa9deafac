import MovePlan.Move.Address

/-!
# Types by name

What can be told from the text of a type: the struct that it names, the element of a vector, the
address in front and the last two parts of its path.
-/

namespace MovePlan.Move.TypeName

open Text

/-- Types without abilities to look up; all of them may be dropped. -/
def primitives : List String :=
  ["bool", "u8", "u16", "u32", "u64", "u128", "u256", "address", "signer"]

/-- The parameter types that stand for the transaction's signer. -/
def signers : List String := ["signer", "&signer"]

/-- The struct that a type names, without its generic arguments. -/
def struct? (type : String) : Option String :=
  let base := beforeGenerics (trim type.toList)
  match splitPath base with
  | [a, m, n] => if a.isEmpty || m.isEmpty || n.isEmpty then none else some (String.ofList base)
  | _ => none

/-- The element type of a vector. -/
def vectorElementChars? (s : List Char) : Option (List Char) :=
  match s with
  | 'v' :: 'e' :: 'c' :: 't' :: 'o' :: 'r' :: '<' :: rest =>
    match rest.reverse with
    | '>' :: inner => some inner.reverse
    | _ => none
  | _ => none

def vectorElement? (type : String) : Option String :=
  (vectorElementChars? (trim type.toList)).map String.ofList

/-- The address in front of a type and the path after it. -/
def splitAddress? (type : String) : Option (String × String) :=
  match cutPath? (trim type.toList) with
  | some (head, rest) =>
    if Address.isWellFormed head then some (String.ofList head, String.ofList rest) else none
  | none => none

/-- The last two parts of a type's path, without generic arguments. -/
def short (type : String) : String :=
  let parts := splitPath (beforeGenerics type.toList)
  String.ofList (joinPath (parts.drop (parts.length - 2)))

end MovePlan.Move.TypeName
