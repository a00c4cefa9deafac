import MovePlan.Tracking.Amount
import MovePlan.Tracking.Balances
import MovePlan.Simulation.Analysis
import MovePlan.Json.Coerce

/-!
# Snapshots and differences

A snapshot holds the balances of an owner's tokens as a reader gives them. The difference of two sets
of balances has one delta for each token, in the tokens' order; a token without a balance afterwards
is unchanged, never zero.
-/

namespace MovePlan.Tracking

open Simulation

/-- The balances of an owner at a time. -/
structure Snapshot where
  owner : String
  balances : Balances := []
  vault : Option Vault := none
  deriving Inhabited

def Snapshot.toJson (s : Snapshot) : Json :=
  .obj [("owner", .str s.owner), ("balances", s.balances.toJson),
    ("vault", .ofOption Vault.toJson s.vault)]

/-- The change of a token's balance. -/
structure Delta where
  token : Token
  before : Int
  after : Int
  change : Int
  text : String
  deriving Inhabited

def Delta.toJson (d : Delta) : Json :=
  .obj [("token", d.token.toJson), ("before", .int d.before), ("after", .int d.after),
    ("delta", .int d.change), ("deltaFormatted", .str d.text)]

/-- The change of one token's balance. -/
def deltaOf (before after : Balances) (t : Token) : Except Error Delta := do
  let b := (before.get? t.metadata).getD 0
  let a := (after.get? t.metadata).getD b
  let text ← formatDelta (a - b) t.decimals
  return ⟨t, b, a, a - b, text⟩

/-- The change of each token's balance. -/
def deltasOf (before after : Balances) : List Token → Except Error (List Delta)
  | [] => .ok []
  | t :: rest => do
    let d ← deltaOf before after t
    let later ← deltasOf before after rest
    return d :: later

/-- A position before and after. -/
structure VaultTransition where
  before : Option Vault
  after : Option Vault
  deriving Inhabited

def VaultTransition.toJson (t : VaultTransition) : Json :=
  .obj [("before", .ofOption Vault.toJson t.before), ("after", .ofOption Vault.toJson t.after)]

/-- The changes of an owner's balances. -/
structure Diff where
  owner : String
  deltas : List Delta
  vault : Option VaultTransition := none
  deriving Inhabited

namespace Diff

def toJson (d : Diff) : Json :=
  .obj [("owner", .str d.owner), ("deltas", .arr (d.deltas.map Delta.toJson)),
    ("vault", .ofOption VaultTransition.toJson d.vault)]

/-- The change of the first token with the metadata, but for letter case. -/
def deltaFor? (d : Diff) (metadata : String) : Option Delta :=
  d.deltas.find? fun x => Text.lowered x.token.metadata == Text.lowered metadata

end Diff

/-- The changes since a snapshot. -/
def diffSince (before : Snapshot) (after : Balances) (tokens : List Token)
    (vault : Option VaultTransition) : Except Error Diff := do
  let deltas ← deltasOf before.balances after tokens
  return ⟨before.owner, deltas, vault⟩

/-! ## Reading balances -/

/-- Reads an owner's balance of an asset from the chain. -/
abbrev BalanceReader := (owner metadata : String) → Except Error Json

/-- A balance that was asked for. -/
structure Reading where
  owner : String
  metadata : String
  deriving DecidableEq, Repr

/-- The balances that are asked for in a snapshot; all of them, also after one that fails. -/
def readingsFor (owner : String) (tokens : List Token) : List Reading :=
  tokens.map fun t => ⟨owner, t.metadata⟩

/-- The answers of the reader, or its first failure. -/
def readAll (reader : BalanceReader) (owner : String) :
    List Token → Except Error (List (Token × Json))
  | [] => .ok []
  | t :: rest => do
    let value ← reader owner t.metadata
    let later ← readAll reader owner rest
    return (t, value) :: later

/-- The answers as integers. -/
def integersOf : List (Token × Json) → Except Error (List (String × Int))
  | [] => .ok []
  | (t, value) :: rest => do
    let n ← value.toInteger
    let later ← integersOf rest
    return (t.metadata, n) :: later

/-- A snapshot of an owner's tokens. Every answer is there before the first is taken as an
integer. -/
def capture (reader : BalanceReader) (owner : String) (tokens : List Token) :
    Except Error Snapshot := do
  let answers ← readAll reader owner tokens
  let entries ← integersOf answers
  return { owner, balances := Balances.ofEntries entries }

end MovePlan.Tracking
