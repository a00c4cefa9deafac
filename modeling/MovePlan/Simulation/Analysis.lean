import MovePlan.Simulation.Event
import MovePlan.Simulation.Change
import MovePlan.Tracking.Balances
import MovePlan.Plan.Token
import MovePlan.Text.Case

/-!
# What an outcome shows

Two readings of an outcome. `analyze` is about one owner: the balances of the tracked tokens in the
owner's own stores, and one position. An asset without a write is not in it, so that callers carry
its earlier balance on. `summarize` lists every write of a store or position, whoever's it is.
-/

namespace MovePlan.Simulation

open Move Numeric

/-! ## Balances of an owner -/

/-- The bytes of an address. A text that is none is an error. -/
def addressBytes (text : String) : Except Error (List UInt8) :=
  match Address.bytes? text.toList with
  | some bytes => .ok bytes
  | none => .error (.invalidAddress text)

/-- The address of the store that holds an owner's balance of an asset. The asset's address is
checked first. -/
def storeAddress (owner metadata : String) : Except Error String :=
  match Address.bytes? metadata.toList with
  | none => .error (.invalidAddress metadata)
  | some seed =>
    match Address.bytes? owner.toList with
    | none => .error (.invalidAddress owner)
    | some creator => .ok (Address.ofSeed creator seed)

/-- The stores of an owner's tokens, in canonical spelling, each with the asset's metadata. -/
def expectedStores (owner : String) : List Token → Except Error (List (String × String))
  | [] => .ok []
  | t :: rest => do
    let store ← storeAddress owner t.metadata
    let later ← expectedStores owner rest
    return (Address.canonical store, t.metadata) :: later

/-- The asset whose store an address is; of two assets with one store the later counts. -/
def assetAt? (stores : List (String × String)) (address : String) : Option String :=
  stores.reverse.lookup (Address.canonical address)

/-- Takes the balances from the writes of the expected stores; later ones replace earlier ones. -/
def balancesFrom (stores : List (String × String)) :
    List Json.Fields → Balances → Except Error Balances
  | [], acc => .ok acc
  | change :: rest, acc => do
    match ← storeWrite? change with
    | none => balancesFrom stores rest acc
    | some write =>
      match assetAt? stores (addressOf change) with
      | none => balancesFrom stores rest acc
      | some asset => balancesFrom stores rest (Balances.put asset write.balance acc)

/-- The balances of an owner's stores after the transaction, by asset. -/
def extractBalances (o : Outcome) (tokens : List Token) (owner : String) :
    Except Error Balances := do
  let stores ← expectedStores owner tokens
  balancesFrom stores o.changes []

/-! ## A position -/

/-- A position at a time. -/
structure Vault where
  collateral : Int
  debt : Int
  present : Bool := true
  market : String := ""
  deriving DecidableEq, Repr

def Vault.toJson (v : Vault) : Json :=
  .obj [("market", .str v.market), ("collateral", .int v.collateral),
    ("debtPrincipal", .int v.debt), ("exists", .bool v.present)]

/-- The first change of a position. -/
def firstVaultChange (position : Option Position) :
    List Json.Fields → Except Error (Option VaultChange)
  | [] => .ok none
  | change :: rest => do
    match ← vaultChange? position change with
    | some v => return some v
    | none => firstVaultChange position rest

/-- The position after the transaction, if the transaction touches it. -/
def extractVault (o : Outcome) (p : Position) : Except Error (Option Vault) := do
  let change ← firstVaultChange (some p) o.changes
  return change.map fun v => ⟨v.collateral, v.debt, v.present, p.market⟩

/-! ## The reading for an owner -/

structure Analysis where
  events : List Event
  balances : Balances
  vault : Option Vault
  deriving Inhabited

def Analysis.toJson (a : Analysis) : Json :=
  .obj [("events", .arr (a.events.map Event.toJson)), ("balances", a.balances.toJson),
    ("vault", .ofOption Vault.toJson a.vault)]

def analyze (o : Outcome) (tokens : List Token) (owner : String) (position : Option Position) :
    Except Error Analysis := do
  let balances ← extractBalances o tokens owner
  let vault ← match position with
    | some p => extractVault o p
    | none => pure none
  return ⟨o.parsedEvents, balances, vault⟩

/-! ## The reading of all writes -/

/-- Symbols of assets, by metadata address as it is spelled. -/
abbrev Registry := List (String × String)

/-- Sets the symbol of an asset: in place if it is there, else at the end. -/
def Registry.put (metadata symbol : String) : Registry → Registry
  | [] => [(metadata, symbol)]
  | (k, v) :: rest =>
    if k = metadata then (k, symbol) :: rest else (k, v) :: Registry.put metadata symbol rest

/-- The symbols of tokens; of two tokens with one metadata the later one's. -/
def Registry.ofTokens (tokens : List Token) : Registry :=
  tokens.foldl (fun r t => Registry.put t.metadata t.symbol r) []

/-- How much of an unknown asset's address is shown. -/
def shownAddressLength : Nat := 10

/-- The symbol of an asset: that of the first entry with the same text but for letter case, or the
beginning of the address. -/
def symbolOf (registry : Registry) (metadata : String) : String :=
  match registry.find? fun e => Text.lowered e.1 == Text.lowered metadata with
  | some e => e.2
  | none => String.ofList (metadata.toList.take shownAddressLength ++ ['.', '.', '.'])

/-- A store's balance after the transaction. -/
structure BalanceChange where
  address : String
  token : String
  metadata : String
  balance : Int
  deriving DecidableEq, Repr

def BalanceChange.toJson (c : BalanceChange) : Json :=
  .obj [("address", .str c.address), ("token", .str c.token),
    ("tokenMetadata", .str c.metadata), ("balance", .int c.balance)]

/-- The writes of stores and of positions, each in order. -/
structure Writes where
  balances : List BalanceChange := []
  vaults : List VaultChange := []
  deriving Inhabited

/-- The writes among changes. A change is looked at as that of a store first. -/
def writesOf (registry : Registry) (position : Option Position) :
    List Json.Fields → Except Error Writes
  | [] => .ok {}
  | change :: rest => do
    match ← storeWrite? change with
    | some w =>
      let later ← writesOf registry position rest
      let here := ⟨addressOf change, symbolOf registry w.metadata, w.metadata, w.balance⟩
      return { later with balances := here :: later.balances }
    | none =>
      let vault ← vaultChange? position change
      let later ← writesOf registry position rest
      return { later with vaults := vault.toList ++ later.vaults }

/-- An outcome with all its writes. -/
structure Summary where
  success : Bool
  status : String
  gasUsed : Int
  gasPrice : Int
  gasCost : Binary64
  events : List Event
  writes : Writes
  deriving Inhabited

def Summary.toJson (s : Summary) : Json :=
  .obj [("success", .bool s.success), ("vmStatus", .str s.status), ("gasUsed", .int s.gasUsed),
    ("gasUnitPrice", .int s.gasPrice), ("gasCostApt", .float s.gasCost),
    ("events", .arr (s.events.map Event.toJson)),
    ("balanceChanges", .arr (s.writes.balances.map BalanceChange.toJson)),
    ("vaultChanges", .arr (s.writes.vaults.map VaultChange.toJson))]

def summarize (o : Outcome) (registry : Registry) (position : Option Position) :
    Except Error Summary := do
  let writes ← writesOf registry position o.changes
  let gasCost ← o.gasCost
  return ⟨o.success, o.status, o.gasUsed, o.gasPrice, gasCost, o.parsedEvents, writes⟩

end MovePlan.Simulation
