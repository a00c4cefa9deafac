import MovePlan.Simulation.Outcome
import MovePlan.Move.TypeName

/-!
# Writes

Of the writes of an outcome two kinds matter: those of a store that holds a balance of a fungible
asset, and those of a lending position, which may also be deleted. Both are told by the exact type of
the resource, its address compared as an address.
-/

namespace MovePlan.Simulation

open Move

/-- The address of the framework's modules. -/
def frameworkAddress : String := "0x1"

/-- The path of the type of stores. -/
def storePath : String := "fungible_asset::FungibleStore"

/-- The path of the type of positions that is taken if no other is given. -/
def defaultPositionPath : String := "lending::Vault"

/-- A lending position to keep track of. -/
structure Position where
  protocol : String
  resource : String := defaultPositionPath
  market : String := ""
  deriving DecidableEq, Repr

/-- Whether a type is that of the position: the protocol's address, and the resource's path with or
without generic arguments. -/
def Position.matches (p : Position) (type : String) : Bool :=
  match TypeName.splitAddress? type with
  | none => false
  | some (address, path) =>
    Address.same address p.protocol
      && String.ofList (Text.beforeGenerics path.toList) == p.resource

/-- Whether a type is that of the given position, or of any protocol's if none is given. -/
def isPositionType (position : Option Position) (type : String) : Bool :=
  match position with
  | some p => p.matches type
  | none =>
    match TypeName.splitAddress? type with
    | none => false
    | some (_, path) => String.ofList (Text.beforeGenerics path.toList) == defaultPositionPath

/-! ## Parts of a write -/

/-- The data of a write. -/
def dataOf (change : Json.Fields) : Option Json.Fields := (valueIn change "data").fields?

/-- The type of the resource that a write is about. -/
def resourceType? (change : Json.Fields) : Option String :=
  (dataOf change).bind fun data => (valueIn data "type").text?

/-- The resource itself, where it is an object. -/
def resource? (change : Json.Fields) : Option Json.Fields :=
  (dataOf change).bind fun data => (valueIn data "data").fields?

/-- The kind of a write. -/
def kindOf (change : Json.Fields) : Option String := (valueIn change "type").text?

/-- The address that a write is at. -/
def addressOf (change : Json.Fields) : String :=
  ((valueIn change "address").orElse (.str "")).display

/-! ## Stores -/

/-- What the write of a store shows. -/
structure StoreWrite where
  metadata : String
  balance : Int
  deriving DecidableEq, Repr

/-- Whether a type is that of stores. -/
def isStoreType (type : String) : Bool :=
  match TypeName.splitAddress? type with
  | none => false
  | some (address, path) => Address.same address frameworkAddress && path == storePath

/-- The balance, still unread, and the metadata address that the write of a store shows. -/
def storeFields? (change : Json.Fields) : Option (String × Json) :=
  if kindOf change ≠ some "write_resource" then none
  else if !((resourceType? change).any isStoreType) then none
  else
    match resource? change with
    | none => none
    | some store =>
      let balance := valueIn store "balance"
      if balance.isNull then none
      else match ((valueIn store "metadata").get "inner").text? with
        | some metadata => some (metadata, balance)
        | none => none

/-- The write of a store that a change is, if it is one. -/
def storeWrite? (change : Json.Fields) : Except Error (Option StoreWrite) :=
  match storeFields? change with
  | none => .ok none
  | some (metadata, balance) =>
    match Json.amount "store balance" 0 balance with
    | .ok n => .ok (some ⟨metadata, n⟩)
    | .error e => .error e

/-! ## Positions -/

/-- What a change of a position shows. -/
structure VaultChange where
  address : String
  collateral : Int
  debt : Int
  present : Bool
  deriving DecidableEq, Repr

def VaultChange.toJson (v : VaultChange) : Json :=
  .obj [("address", .str v.address), ("collateral", .int v.collateral),
    ("debtPrincipal", .int v.debt), ("exists", .bool v.present)]

/-- The entries of a table; none if it is no object or not filled. -/
def entriesOf (table : Json) : Except Error (List Json) :=
  match table with
  | .obj fields =>
    (valueIn fields "data").membersIfGiven
  | _ => .ok []

/-- The sum of the amounts that entries show. -/
def sumEntries (amount : Json → Except Error Int) : List Json → Except Error Int
  | [] => .ok 0
  | e :: rest => do
    let here ← amount e
    let later ← sumEntries amount rest
    return here + later

/-- The value of an entry of the collaterals; entries that are no objects have none. -/
def collateralOf (entry : Json) : Except Error Int :=
  if entry.isObject then Json.amount "collateral value" 0 (entry.get "value") else .ok 0

/-- The principal of an entry of the liabilities. -/
def principalOf (entry : Json) : Except Error Int :=
  Json.amount "liability principal" 0 ((entry.get "value").get "principal")

/-- The collateral and the debt of a position. -/
def vaultTotals (vault : Json.Fields) : Except Error (Int × Int) := do
  let collateral ← sumEntries collateralOf (← entriesOf (valueIn vault "collaterals"))
  let debt ← sumEntries principalOf (← entriesOf (valueIn vault "liabilities"))
  return (collateral, debt)

/-- The change of a position that a change is, if it is one. -/
def vaultChange? (position : Option Position) (change : Json.Fields) :
    Except Error (Option VaultChange) :=
  match kindOf change with
  | some "delete_resource" =>
    match (valueIn change "resource").text? with
    | some type =>
      if isPositionType position type then .ok (some ⟨addressOf change, 0, 0, false⟩) else .ok none
    | none => .ok none
  | some "write_resource" =>
    if (resourceType? change).any (isPositionType position) then
      match resource? change with
      | none => .ok none
      | some vault => do
        let (collateral, debt) ← vaultTotals vault
        return some ⟨addressOf change, collateral, debt, true⟩
    else .ok none
  | _ => .ok none

end MovePlan.Simulation
