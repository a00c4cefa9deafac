import MovePlan.Node.Exchange
import MovePlan.Abi.Cache
import MovePlan.Json.Writer
import MovePlan.Config.Settings

/-!
# The client of a node

Modules are asked for by address and name, and what is known of one answers every question about its
functions and structs. A module that is not there is known too; a request that fails leaves nothing
known, so that the next question asks again. Views are asked for each time.
-/

namespace MovePlan.Node

open Move Abi

/-- How to reach a node. -/
structure Client where
  /-- The address that paths are put behind. -/
  baseUrl : String
  authorization : Option String
  deriving DecidableEq, Repr

/-- What a client knows, and the state of the way to the node. -/
structure Knowledge (σ : Type) where
  /-- The interfaces of modules by address and name; none of a module that is not there. -/
  modules : List (String × Option Json.Fields) := []
  transport : σ

namespace Client

/-- A client for an address, with a key if the text is not empty. -/
def make (baseUrl : String) (apiKey : Option String) : Client :=
  ⟨Config.withoutSlashes baseUrl, (Config.filled apiKey).map ("Bearer " ++ ·)⟩

def ofSettings (s : Config.Settings) : Client := make s.nodeUrl s.apiKey

/-- What a client accepts in answer. -/
def accepted : String := "application/json"

/-- The fields that each request carries in front of its body. -/
def headers (c : Client) : List (String × String) :=
  ("Accept", accepted) :: (c.authorization.map ("Authorization", ·)).toList

variable {σ : Type}

/-! ## Requests -/

/-- Sends a request. -/
def send (c : Client) (transport : Transport σ) (method : Method) (url : String) (body : Option Json)
    (s : σ) : Except Error Reply × σ :=
  transport ⟨method, url, c.headers, body⟩ s

/-- What an answer that is no success is told as. -/
def statusReason (status : Int) (body : String) : String :=
  let number := String.ofList (Numeric.intText status)
  let start := bodyStart body
  s!"HTTP {number}: {start}"

/-- The document that a reply brings, or a failure told by `fault` with the status if there is one. -/
def documentOf (fault : (reason : String) → (status : Option Int) → Error) :
    Reply → Except Error Json
  | .timedOut message => .error (fault ("timeout: " ++ message) none)
  | .failed message => .error (fault ("request error: " ++ message) none)
  | .answer status body =>
    if status ≠ 200 then .error (fault (statusReason status body) (some status))
    else match readBody body with
      | .ok j => .ok j
      | .error what => .error (fault ("invalid JSON: " ++ what) (some status))

/-! ## Modules -/

/-- The address of a module at the node. -/
def moduleUrl (c : Client) (address module : String) : String :=
  c.baseUrl ++ "/accounts/" ++ address ++ "/module/" ++ module

/-- The interface that the reply to a question about a module brings; none if there is no such
module. -/
def interfaceOf (url : String) (reply : Reply) : Except Error (Option Json.Fields) :=
  match reply with
  | .answer 404 _ => .ok none
  | reply => do
    let j ← documentOf (fun reason status => .abiFetch url reason status) reply
    return (j.get "abi").fields?

/-- The interface of a module. -/
def module (c : Client) (transport : Transport σ) (address name : String) (k : Knowledge σ) :
    Except Error (Option Json.Fields) × Knowledge σ :=
  let key := address ++ "::" ++ name
  match k.modules.lookup key with
  | some known => (.ok known, k)
  | none =>
    let url := c.moduleUrl address name
    let (reply, s) := c.send transport .get url none k.transport
    match reply >>= interfaceOf url with
    | .error e => (.error e, { k with transport := s })
    | .ok interface => (.ok interface, ⟨k.modules ++ [(key, interface)], s⟩)

/-- The first object with the name among the members of a field. -/
def namedEntry? (interface : Json.Fields) (field name : String) : Except Error (Option Json) :=
  let list := (Json.field? field interface).getD .null
  if !list.given then .ok none
  else match list.members? with
    | none => .error .wrongType
    | some entries => .ok (entries.find? fun e => (e.get "name").text? == some name)

/-- The signature of a function. -/
def function (c : Client) (transport : Transport σ) (id : FunctionId) (k : Knowledge σ) :
    Except Error (Option Signature) × Knowledge σ :=
  let (interface, k) := c.module transport id.address id.module k
  let signature : Except Error (Option Signature) := do
    match ← interface with
    | none => return none
    | some fields =>
      match ← namedEntry? fields "exposed_functions" id.function with
      | none => return none
      | some entry => return some (← Signature.ofEntry entry)
  (signature, k)

/-- The abilities of a struct. -/
def struct (c : Client) (transport : Transport σ) (type : String) (k : Knowledge σ) :
    Except Error (Option Abilities) × Knowledge σ :=
  match (TypeName.struct? type).map fun base => Text.splitPath base.toList with
  | some [address, name, struct] =>
    let (interface, k) := c.module transport (String.ofList address) (String.ofList name) k
    let abilities : Except Error (Option Abilities) := do
      match ← interface with
      | none => return none
      | some fields =>
        match ← namedEntry? fields "structs" (String.ofList struct) with
        | none => return none
        | some entry => return some (← textsOf (entry.get "abilities"))
    (abilities, k)
  | _ => (.ok none, k)

/-- The node as a source of interfaces. -/
def source (c : Client) (transport : Transport σ) : Source (Knowledge σ) :=
  ⟨c.function transport, c.struct transport⟩

/-! ## Views -/

/-- Calls a view function. -/
def view (c : Client) (transport : Transport σ) (function : Json) (typeArguments args : Json)
    (s : σ) : Except Error (List Json) × σ :=
  let url := c.baseUrl ++ "/view"
  let body := Json.obj
    [("function", function), ("type_arguments", typeArguments), ("arguments", args)]
  let (reply, s) := c.send transport .post url (some body) s
  let values : Except Error (List Json) := do
    match ← documentOf (fun reason status => .nodeRequest url reason status) (← reply) with
    | .arr values => return values
    | j => throw (.nodeRequest url ("expected a list, got " ++ j.kindWord) (some 200))
  (values, s)

/-- The view function for balances. -/
def balanceFunction : String := "0x1::primary_fungible_store::balance"

/-- The type of the metadata of fungible assets. -/
def metadataType : String := "0x1::fungible_asset::Metadata"

/-- An owner's balance of an asset; nothing answered counts as zero. -/
def balance (c : Client) (transport : Transport σ) (owner metadata : String) (s : σ) :
    Except Error Int × σ :=
  let (values, s) := c.view transport (.str balanceFunction) (.texts [metadataType])
    (.texts [owner, metadata]) s
  let amount : Except Error Int := do
    match ← values with
    | [] => return 0
    | first :: _ => Json.amount "balance" 0 first
  (amount, s)

end Client

end MovePlan.Node
