import MovePlan.Flow.Payload
import MovePlan.Tracking.Expectation

/-!
# Flows

A flow is a list of calls that are tried one after the other for one owner, each as a transaction of
its own, with the tokens and perhaps the lending position to keep track of. It is put together piece
by piece and is ready once it has an owner, tokens and steps.
-/

namespace MovePlan.Flow

open Simulation Tracking

/-- A call of a flow and what its author expects of it. -/
structure Stage where
  /-- What it is called; a text as a rule, as is the description. -/
  label : Json
  description : Json
  payload : Payload
  expectations : List Expectation := []
  deriving Inhabited

def Stage.toJson (s : Stage) : Json :=
  .obj [("label", s.label), ("description", s.description),
    ("payload", s.payload.toJson), ("expectations", .arr (s.expectations.map Expectation.toJson))]

/-- The position that a flow keeps track of; its market and its protocol's address are texts as a
rule. -/
structure Lending where
  market : Json
  protocol : Json
  deriving Inhabited

end MovePlan.Flow

namespace MovePlan

open Simulation Flow

/-- Calls that are tried one after the other. -/
structure Flow where
  /-- What it is called; a text as a rule, as is the description. -/
  name : Json
  description : Json := .str ""
  owner : String := ""
  tokens : List Token := []
  stages : List Stage := []
  lending : Option Lending := none
  deriving Inhabited

namespace Flow

/-! ## Putting a flow together -/

def describe (f : Flow) (description : Json) : Flow := { f with description }

def forOwner (f : Flow) (owner : String) : Flow := { f with owner }

def trackTokens (f : Flow) (tokens : List Token) : Flow := { f with tokens }

def trackLending (f : Flow) (market protocol : Json) : Flow :=
  { f with lending := some ⟨market, protocol⟩ }

def addStage (f : Flow) (s : Stage) : Flow := { f with stages := f.stages ++ [s] }

/-- The flow if nothing is missing; else what is missing first. -/
def ready (f : Flow) : Except Error Flow :=
  if f.owner = "" then
    .error (.planBuild "SimulationPlan requires a wallet (for_wallet)")
  else if f.tokens.isEmpty then
    .error (.planBuild "SimulationPlan requires tracked tokens (track_tokens)")
  else if f.stages.isEmpty then
    .error (.planBuild "SimulationPlan requires at least one step (add_step)")
  else .ok f

/-! ## Views -/

/-- The position to keep track of; none without a protocol. -/
def position (f : Flow) : Option Position :=
  f.lending.bind fun l =>
    if l.protocol.given then
      some { protocol := l.protocol.display, market := (l.market.orElse (.str "")).display }
    else none

def toJson (f : Flow) : Json :=
  .obj [("name", f.name), ("description", f.description), ("owner", .str f.owner),
    ("tokens", .arr (f.tokens.map Token.toJson)), ("steps", .arr (f.stages.map Stage.toJson)),
    ("vaultMarket", .ofOption Lending.market f.lending),
    ("vaultProtocol", .ofOption Lending.protocol f.lending)]

end Flow

end MovePlan
