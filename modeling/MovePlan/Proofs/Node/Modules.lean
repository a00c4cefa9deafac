import MovePlan.Node.Client
import MovePlan.Proofs.Abi.World
import MovePlan.Proofs.Node.Body
import MovePlan.Proofs.Validation.WellFormed

/-!
# Modules that are asked for once

A node whose answers do not change is asked about functions and structs, one question after the other.
What the client knows of a module already cannot be told from its answers (`PureView`): each is the one
that a client without any knowledge gets. What can be told is how often the node was asked.

A module is known by its address and name in one text, and the text can be cut in one place only
(`ModuleName.IsCut`), so that no module is taken for another one. With that, what is known is always
what the node told (`Knowledge.Coherent`), and every answer follows from it.
-/

namespace MovePlan

open Move Abi Text Validation

namespace Node

/-! ## Questions -/

/-- The address and the name of a module. -/
structure ModuleName where
  address : String
  name : String
  deriving DecidableEq

/-- The text under which a client keeps what it knows of a module. -/
def ModuleName.key (m : ModuleName) : String := m.address ++ "::" ++ m.name

end Node

/-- The module that a question is about; none if a type names no struct. -/
def Abi.Lookup.module? : Abi.Lookup → Option Node.ModuleName
  | function id => some ⟨id.address, id.module⟩
  | struct type =>
    match (TypeName.struct? type).map fun base => splitPath base.toList with
    | some [address, name, _] => some ⟨String.ofList address, String.ofList name⟩
    | _ => none

namespace Node

/-- What a question is answered with. -/
inductive Answer where
  | function (found : Except Error (Option Signature))
  | struct (found : Except Error (Option Abilities))

/-- Asks a client. -/
def Client.ask {σ : Type} (c : Client) (transport : Transport σ) (q : Lookup) (k : Knowledge σ) :
    Answer × Knowledge σ :=
  match q with
  | .function id => ((c.function transport id k).map Answer.function fun k => k)
  | .struct type => ((c.struct transport type k).map Answer.struct fun k => k)

/-- Whether the address of a module ends at the first double colon after it, whatever follows. -/
def ModuleName.IsCut (m : ModuleName) : Prop :=
  ∀ rest, cutPath? (m.address.toList ++ ':' :: ':' :: rest) = some (m.address.toList, rest)

/-- An address without a colon can be told apart from the name behind it. -/
theorem ModuleName.eq_of_key {m m' : ModuleName} (h : m.IsCut) (h' : m'.IsCut)
    (hkey : m.key = m'.key) : m = m' := by
  have htext : ∀ n : ModuleName, n.key.toList = n.address.toList ++ ':' :: ':' :: n.name.toList := by
    intro n
    simp [key, String.toList_append]
  have hcut := h m.name.toList
  rw [← htext, hkey, htext, h' m'.name.toList, Option.some.injEq, Prod.mk.injEq] at hcut
  cases m
  cases m'
  simpa [String.toList_inj, eq_comm] using hcut

/-- The names that a query asks for are cut out of a text at its colons. -/
theorem isCut_of_module? {q : Lookup} {m : ModuleName} (h : q.module? = some m) : m.IsCut := by
  cases q with
  | function id =>
    obtain rfl := Option.some.inj h
    exact fun rest => cutPath?_append rest (FunctionId.colon_not_mem_of_isWellFormed
      id.isWellFormed_address)
  | struct type =>
    rw [Lookup.module?] at h
    split at h
    next address name struct hparts =>
      obtain ⟨base, -, hsplit⟩ := Option.map_eq_some_iff.1 hparts
      obtain rfl := Option.some.inj h
      intro rest
      simpa using cutPath?_of_splitPath hsplit (List.cons_ne_nil name [struct]) rest
    next => cases h

/-! ## A node whose answers do not change -/

/-- The answers of a node, one for each request; to some it may be that they are refused. -/
abbrev Server := Request → Except Error Reply

/-- The way to such a node, with the log of what it was asked. -/
def Server.transport (server : Server) : Transport (List Request) :=
  fun r log => (server r, log ++ [r])

/-- Whether a reply settles what there is to know of a module: that it is not there, or a document. -/
def Reply.Settles : Reply → Prop
  | answer status body => status = 404 ∨ status = 200 ∧ ∃ j, readBody body = .ok j
  | _ => False

variable (c : Client) (server : Server)

namespace Client

/-- The request for the interface of a module. -/
def moduleRequest (m : ModuleName) : Request := ⟨.get, c.moduleUrl m.address m.name, c.headers, none⟩

/-- Whether the node settles what there is to know of a module. -/
def Settled (m : ModuleName) : Prop :=
  ∃ reply, server (c.moduleRequest m) = .ok reply ∧ reply.Settles

/-- The interface of a module as the node tells it. -/
def told (m : ModuleName) : Except Error (Option Json.Fields) :=
  server (c.moduleRequest m) >>= interfaceOf (c.moduleUrl m.address m.name)

variable {c server} {m : ModuleName}

/-- A request is written down and sent as it is. -/
theorem send_module (log : List Request) :
    c.send server.transport .get (c.moduleUrl m.address m.name) none log =
      (server (c.moduleRequest m), log ++ [c.moduleRequest m]) := rfl

/-- A reply brings an interface, or that there is none, just where it settles that. -/
theorem exists_interfaceOf_eq_ok_iff (url : String) {reply : Reply} :
    (∃ found, interfaceOf url reply = .ok found) ↔ reply.Settles := by
  cases reply with
  | answer status body =>
    by_cases h404 : status = 404
    · subst h404
      exact ⟨fun _ => Or.inl rfl, fun _ => ⟨none, rfl⟩⟩
    · have hbind : interfaceOf url (.answer status body) =
          documentOf (fun reason status => .abiFetch url reason status) (.answer status body) >>=
            fun j => pure (j.get "abi").fields? := by
        rw [interfaceOf]
        simpa using h404
      rw [hbind, documentOf, Reply.Settles]
      by_cases h200 : status = 200
      · cases readBody body <;> simp [h200, bind, Except.bind, pure, Except.pure]
      · simp [h404, h200, bind, Except.bind]
  | timedOut | failed => simp [interfaceOf, documentOf, Reply.Settles, bind, Except.bind]

/-- A module is settled exactly if its reply is one that can be kept. -/
theorem settled_iff : c.Settled server m ↔ ∃ found, c.told server m = .ok found := by
  simp only [Settled, told, Error.bind_eq_ok_iff, ← exists_interfaceOf_eq_ok_iff (c.moduleUrl m.address m.name)]
  constructor
  · rintro ⟨reply, hreply, found, hfound⟩
    exact ⟨found, reply, hreply, hfound⟩
  · rintro ⟨found, reply, hreply, hfound⟩
    exact ⟨reply, hreply, found, hfound⟩

end Client

/-! ## What is known -/

/-- Whether a client knows of modules only what the node tells. -/
def Knowledge.Coherent (c : Client) (server : Server) (k : Knowledge (List Request)) : Prop :=
  ∀ m : ModuleName, m.IsCut → ∀ found, k.modules.lookup m.key = some found →
    c.told server m = .ok found

theorem coherent_nil (c : Client) (server : Server) : Knowledge.Coherent c server ⟨[], []⟩ := by
  intro m _ found h
  cases h

/-- Whether a client knows of a module, be it only that it is not there. -/
def Knowledge.Knows {σ : Type} (k : Knowledge σ) (m : ModuleName) : Bool :=
  (k.modules.lookup m.key).isSome

namespace Client

/-- What is sent to the node for a question: the request for its module, unless that is known. -/
def sentFor (q : Lookup) (k : Knowledge (List Request)) : List Request :=
  match q.module? with
  | none => []
  | some m => if k.Knows m then [] else [c.moduleRequest m]

variable {c server} {m m' : ModuleName} {q : Lookup} {k : Knowledge (List Request)}

/-- A known module is not asked for. -/
theorem module_of_known {σ : Type} {t : Transport σ} {k : Knowledge σ}
    {found : Option Json.Fields} (h : k.modules.lookup m.key = some found) :
    c.module t m.address m.name k = (.ok found, k) := by
  unfold Client.module
  rw [ModuleName.key] at h
  simp only [h]

/-- A new module is asked for, and what is told of it is kept unless it is an error. -/
theorem module_of_new (h : k.modules.lookup m.key = none) :
    c.module server.transport m.address m.name k = (c.told server m,
      ⟨k.modules ++ ((c.told server m).toOption.map fun found => (m.key, found)).toList,
        k.transport ++ [c.moduleRequest m]⟩) := by
  unfold Client.module
  rw [ModuleName.key] at h
  simp only [h, send_module, told]
  cases server (c.moduleRequest m) >>= interfaceOf (c.moduleUrl m.address m.name) <;>
    simp [Except.toOption, ModuleName.key]

/-- What is known of a module does not matter for what is told of it. -/
theorem fst_module (hk : k.Coherent c server) (hm : m.IsCut) :
    (c.module server.transport m.address m.name k).1 = c.told server m := by
  cases hknown : k.modules.lookup m.key with
  | some found => rw [module_of_known hknown, hk m hm found hknown]
  | none => rw [module_of_new hknown]

/-- What is kept of one more module is what the node tells of it. -/
theorem coherent_module (hk : k.Coherent c server) (hm : m.IsCut) :
    (c.module server.transport m.address m.name k).2.Coherent c server := by
  cases hknown : k.modules.lookup m.key with
  | some found => rwa [module_of_known hknown]
  | none =>
    rw [module_of_new hknown]
    intro m' hm' found hfound
    rw [List.lookup_append, Option.or_eq_some_iff] at hfound
    rcases hfound with hold | ⟨-, hnew⟩
    · exact hk m' hm' found hold
    · cases htold : c.told server m with
      | error e => simp [htold, Except.toOption] at hnew
      | ok told =>
        simp only [htold, Except.toOption, Option.map_some, Option.toList_some, List.lookup_cons,
          List.lookup_nil] at hnew
        split at hnew
        next hkey =>
          obtain rfl := ModuleName.eq_of_key hm' hm (beq_iff_eq.1 hkey)
          rw [htold, Option.some.inj hnew]
        next => cases hnew

/-- One request is sent for a module that is not known, and none for one that is. -/
theorem transport_module : (c.module server.transport m.address m.name k).2.transport =
    k.transport ++ if k.Knows m then [] else [c.moduleRequest m] := by
  rw [Knowledge.Knows]
  cases hknown : k.modules.lookup m.key with
  | some found => simp [module_of_known hknown]
  | none => simp [module_of_new hknown]

/-- Nothing is forgotten. -/
theorem knows_module (h : k.Knows m' = true) :
    (c.module server.transport m.address m.name k).2.Knows m' = true := by
  cases hknown : k.modules.lookup m.key with
  | some found => rwa [module_of_known hknown]
  | none =>
    rw [module_of_new hknown, Knowledge.Knows, List.lookup_append]
    rw [Knowledge.Knows] at h
    simp [h]

/-- A module that is settled is known once it was asked for. -/
theorem knows_module_self (h : c.Settled server m) :
    (c.module server.transport m.address m.name k).2.Knows m = true := by
  obtain ⟨found, hfound⟩ := settled_iff.1 h
  cases hknown : k.modules.lookup m.key with
  | some found => rw [module_of_known hknown, Knowledge.Knows, hknown, Option.isSome_some]
  | none =>
    rw [module_of_new hknown, Knowledge.Knows, List.lookup_append]
    simp [hfound, Except.toOption]

/-- What is not settled is not known. -/
theorem knows_eq_false (hk : k.Coherent c server) (hm : m.IsCut) (h : ¬c.Settled server m) :
    k.Knows m = false := by
  rw [Knowledge.Knows, Option.isSome_eq_false_iff, Option.isNone_iff_eq_none]
  cases hknown : k.modules.lookup m.key with
  | none => rfl
  | some found => exact absurd (settled_iff.2 ⟨found, hk m hm found hknown⟩) h

/-! ## One question -/

/-- A query leaves behind what its module leaves behind. -/
theorem snd_ask {σ : Type} {t : Transport σ} {k : Knowledge σ} : (c.ask t q k).2 =
    match q.module? with
    | none => k
    | some m => (c.module t m.address m.name k).2 := by
  cases q with
  | function id => rfl
  | struct type =>
    rw [ask, struct, Lookup.module?]
    -- only three parts name a struct
    generalize (TypeName.struct? type).map (fun base => splitPath base.toList) = parts
    rcases parts with _ | (_ | ⟨_, _ | ⟨_, _ | ⟨_, _ | _⟩⟩⟩) <;> rfl

/-- An answer depends on what is told of the module, not on how it comes to be known. -/
theorem fst_ask_congr {σ τ : Type} {t : Transport σ} {t' : Transport τ} {k : Knowledge σ}
    {k' : Knowledge τ} (h : ∀ m, q.module? = some m →
      (c.module t m.address m.name k).1 = (c.module t' m.address m.name k').1) :
    (c.ask t q k).1 = (c.ask t' q k').1 := by
  cases q with
  | function id =>
    have hsame := h _ rfl
    simp only [ask, Client.function, Prod.map_fst]
    rw [hsame]
  | struct type =>
    simp only [ask, struct, Prod.map_fst]
    split
    next address name struct hparts =>
      have hsame := h ⟨String.ofList address, String.ofList name⟩ (by rw [Lookup.module?, hparts])
      simp only [hsame]
    next => rfl

/-- The answer does not depend on what is known already. -/
theorem fst_ask (hk : k.Coherent c server) :
    (c.ask server.transport q k).1 = (c.ask server.transport q ⟨[], []⟩).1 := by
  refine fst_ask_congr fun m hm => ?_
  have hcut := isCut_of_module? hm
  rw [fst_module hk hcut, fst_module (coherent_nil c server) hcut]

theorem coherent_ask (hk : k.Coherent c server) :
    (c.ask server.transport q k).2.Coherent c server := by
  rw [snd_ask]
  cases hm : q.module? with
  | none => exact hk
  | some m => exact coherent_module hk (isCut_of_module? hm)

/-- The log grows by what the query sends. -/
theorem transport_ask :
    (c.ask server.transport q k).2.transport = k.transport ++ c.sentFor q k := by
  rw [snd_ask, sentFor]
  cases q.module? with
  | none => simp
  | some m => exact transport_module

/-- A module that is known stays known. -/
theorem knows_ask (h : k.Knows m = true) : (c.ask server.transport q k).2.Knows m = true := by
  rw [snd_ask]
  cases q.module? with
  | none => exact h
  | some m => exact knows_module h

/-- A settled module is known once it has been asked for. -/
theorem knows_ask_self (hm : q.module? = some m) (h : c.Settled server m) :
    (c.ask server.transport q k).2.Knows m = true := by
  rw [snd_ask, hm]
  exact knows_module_self h

end Client

/-! ## Questions one after the other -/

/-- A question with its answer, and what was sent to the node for it. -/
structure Turn where
  query : Lookup
  answer : Answer
  sent : List Request

/-- Asks a client one question after the other. -/
def Client.askEach (c : Client) (server : Server) :
    List Lookup → Knowledge (List Request) → List Turn × Knowledge (List Request)
  | [], k => ([], k)
  | q :: rest, k =>
    let (answer, after) := c.ask server.transport q k
    let sent := after.transport.drop k.transport.length
    let (turns, final) := askEach c server rest after
    (⟨q, answer, sent⟩ :: turns, final)

/-- Whether a turn is about a module and something is sent in it. -/
def Turn.asksFor (t : Turn) (m : ModuleName) : Bool := t.query.module? == some m && !t.sent.isEmpty

section

variable {c : Client} {server : Server} {k : Knowledge (List Request)} {queries : List Lookup}
  {q : Lookup} {m : ModuleName}

theorem Client.askEach_cons : c.askEach server (q :: queries) k =
    (⟨q, (c.ask server.transport q k).1, c.sentFor q k⟩ ::
        (c.askEach server queries (c.ask server.transport q k).2).1,
      (c.askEach server queries (c.ask server.transport q k).2).2) := by
  have hsent : (c.ask server.transport q k).2.transport.drop k.transport.length =
      c.sentFor q k := by
    rw [transport_ask, List.drop_left]
  rw [askEach, ← hsent]

/-! ## What a row of questions leaves -/

/-- Each answer is the one that a client without any knowledge would give. -/
theorem fresh_askEach (hk : k.Coherent c server) :
    (c.askEach server queries k).1.map (fun t => (t.query, t.answer)) =
      queries.map fun q => (q, (c.ask server.transport q ⟨[], []⟩).1) := by
  induction queries generalizing k with
  | nil => rfl
  | cons q rest ih =>
    rw [Client.askEach_cons, List.map_cons, List.map_cons, ih (Client.coherent_ask hk),
      Client.fst_ask hk]

theorem coherent_askEach (hk : k.Coherent c server) (queries : List Lookup) :
    (c.askEach server queries k).2.Coherent c server := by
  induction queries generalizing k with
  | nil => exact hk
  | cons q rest ih =>
    rw [Client.askEach_cons]
    exact ih (Client.coherent_ask hk)

/-- The log of a run is what its turns have sent, one after the other. -/
theorem transport_askEach : (c.askEach server queries k).2.transport =
    k.transport ++ (c.askEach server queries k).1.flatMap Turn.sent := by
  induction queries generalizing k with
  | nil => simp [Client.askEach]
  | cons q rest ih =>
    rw [Client.askEach_cons, ih, Client.transport_ask, List.flatMap_cons, List.append_assoc]

/-- In each turn something is known of modules; what is sent follows from that. -/
theorem exists_of_mem_askEach (hk : k.Coherent c server) {t : Turn}
    (ht : t ∈ (c.askEach server queries k).1) :
    ∃ before : Knowledge (List Request), before.Coherent c server ∧
      t.sent = c.sentFor t.query before := by
  induction queries generalizing k with
  | nil => cases ht
  | cons q rest ih =>
    rw [Client.askEach_cons] at ht
    rcases List.mem_cons.1 ht with rfl | ht
    · exact ⟨k, hk, rfl⟩
    · exact ih (Client.coherent_ask hk) ht

/-- A module that the node settles is asked for once, or not at all if it is known already. -/
theorem countP_askEach (h : c.Settled server m) :
    (c.askEach server queries k).1.countP (·.asksFor m) ≤ if k.Knows m then 0 else 1 := by
  induction queries generalizing k with
  | nil => exact Nat.zero_le _
  | cons q rest ih =>
    rw [Client.askEach_cons, List.countP_cons]
    have hrest := ih (k := (c.ask server.transport q k).2)
    by_cases hq : q.module? = some m
    · -- after this turn the module is known
      rw [Client.knows_ask_self hq h, if_pos rfl] at hrest
      cases hknown : k.Knows m with
      | true => simpa [Turn.asksFor, Client.sentFor, hq, hknown] using hrest
      | false =>
        simp only [Bool.false_eq_true, if_false]
        split <;> omega
    · have hother : (Turn.asksFor ⟨q, (c.ask server.transport q k).1, c.sentFor q k⟩ m) = false := by
        simp [Turn.asksFor, hq]
      simp only [hother, Bool.false_eq_true, if_false, Nat.add_zero]
      cases hknown : k.Knows m with
      | true => rwa [Client.knows_ask hknown] at hrest
      | false =>
        refine Nat.le_trans hrest ?_
        split <;> simp

/-- A module that the node does not settle is asked for in each turn that is about it. -/
theorem countP_askEach_of_not_settled (hk : k.Coherent c server) (hm : m.IsCut)
    (h : ¬c.Settled server m) : (c.askEach server queries k).1.countP (·.asksFor m) =
      queries.countP (·.module? == some m) := by
  -- no knowledge that comes from the node has the module, before or after a turn
  induction queries generalizing k with
  | nil => rfl
  | cons q rest ih =>
    rw [Client.askEach_cons, List.countP_cons, List.countP_cons, ih (Client.coherent_ask hk)]
    congr 1
    by_cases hq : q.module? = some m
    · simp [Turn.asksFor, Client.sentFor, hq, Client.knows_eq_false hk hm h]
    · simp [Turn.asksFor, hq]

end

/-- What there is to tell of questions that a client was asked one after the other: the turns, and what
the client knows after them. -/
structure PureView (c : Client) (server : Server) (queries : List Lookup) (turns : List Turn)
    (after : Knowledge (List Request)) : Prop where
  /-- Each question gets the answer of a client that knows nothing yet. -/
  fresh : turns.map (fun t => (t.query, t.answer)) =
    queries.map fun q => (q, (c.ask server.transport q ⟨[], []⟩).1)
  /-- Nothing is sent but in the turns. -/
  log : after.transport = turns.flatMap Turn.sent
  /-- What is sent in a turn is the request for the module of the question, if anything. -/
  sent : ∀ t ∈ turns, t.sent = [] ∨
    ∃ m, t.query.module? = some m ∧ t.sent = [c.moduleRequest m]
  /-- What the node settles is asked for at most once. -/
  once : ∀ m, c.Settled server m → turns.countP (·.asksFor m) ≤ 1
  /-- What it does not settle is asked for each time. -/
  again : ∀ t ∈ turns, ∀ m, t.query.module? = some m → ¬c.Settled server m →
    t.sent = [c.moduleRequest m]
  /-- It is never stored. -/
  unknown : ∀ t ∈ turns, ∀ m, t.query.module? = some m → ¬c.Settled server m →
    after.modules.lookup m.key = none

/-- **A client is a pure view of its node**: if the node's answers do not change, what the client keeps
of earlier questions shows in the number of requests only. -/
theorem askEach_viewsPurely (c : Client) (server : Server) (queries : List Lookup) :
    PureView c server queries (c.askEach server queries ⟨[], []⟩).1
      (c.askEach server queries ⟨[], []⟩).2 := by
  have hstart := coherent_nil c server
  refine ⟨fresh_askEach hstart, transport_askEach, fun t ht => ?_, fun m hm => countP_askEach hm,
    fun t ht m hm hnot => ?_, fun t ht m hm hnot => ?_⟩
  · obtain ⟨before, -, hsent⟩ := exists_of_mem_askEach hstart ht
    rw [hsent, Client.sentFor]
    cases hm : t.query.module? with
    | none => exact Or.inl rfl
    | some m =>
      cases hknown : before.Knows m with
      | true => exact Or.inl (by simp [hknown])
      | false => exact Or.inr ⟨m, rfl, by simp [hknown]⟩
  · obtain ⟨before, hbefore, hsent⟩ := exists_of_mem_askEach hstart ht
    have hunknown := Client.knows_eq_false hbefore (isCut_of_module? hm) hnot
    rw [hsent, Client.sentFor, hm]
    simp [hunknown]
  · have hunknown := Client.knows_eq_false (coherent_askEach hstart queries)
      (isCut_of_module? hm) hnot
    simpa [Knowledge.Knows] using hunknown

/-! ## An interface that is a long integer -/

/-- A client of a node on this network. -/
def homeClient : Client := Client.make "https://node.test/v1" none

/-- A node that answers every request with an integer of one digit too many. -/
def longNode : Server := fun _ =>
  .ok (.answer 200 (String.ofList (Numeric.intText (Numeric.tenTo Numeric.digitLimit))))

/-- The module of coins. -/
def coinModule : ModuleName := ⟨"0x7", "coin"⟩

/-- The node answers with a number that no client of it can keep. -/
theorem not_settled_longNode : ¬homeClient.Settled longNode coinModule := by
  rintro ⟨reply, hreply, hsettles⟩
  obtain rfl := Except.ok.inj hreply
  rcases hsettles with hmissing | ⟨-, hread⟩
  · cases hmissing
  · rw [exists_readBody_intText_iff, hasText_limit] at hread
    cases hread

/-- The body is a number and nothing else, but it is asked for again. -/
theorem asked_again_of_longInteger : (∃ n, Json.readPlain?
      (Numeric.intText (Numeric.tenTo Numeric.digitLimit)) = some (.int n, [])) ∧
    (homeClient.askEach longNode [.function withdraw, .function withdraw] ⟨[], []⟩).1.countP
      (·.asksFor coinModule) = 2 := by
  refine ⟨⟨_, Json.readPlain?_intText_end _⟩, ?_⟩
  have hcut : coinModule.IsCut := isCut_of_module? (q := .function withdraw) rfl
  rw [countP_askEach_of_not_settled (coherent_nil homeClient longNode) hcut not_settled_longNode]
  rfl

end Node

end MovePlan
