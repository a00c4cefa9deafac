import MovePlan.Compose.Session
import MovePlan.Proofs.Compose.Build
import MovePlan.Proofs.Compose.Refusals
import MovePlan.Proofs.Validation.Cached

/-!
# What reaches the simulator

A session may be asked to add steps, to track tokens, to validate, build and simulate its graph, and to
execute what was simulated, in any order; requests may fail. A transaction is handed to the simulator
where a graph passes that is to be simulated (`Moment.isAdmitted`), and then it is that of the graph at
that moment (`Simulates`). A graph that does not pass is refused, and leaves nothing in the session but
what was looked up.

What every request keeps is that the steps can be told and resolved, and that the handles of the builder
fit the signatures that are stored (`Session.Sound`). All that one request can do is told once
(`RequestEnds`); the row of requests follows by induction.
-/

namespace MovePlan

open Move Graph Abi Validation Simulation Tracking Plan Error

/-! ## Builders that fit what is looked up -/

namespace Compose

variable {σ : Type} {src : Source σ} {builder : ScriptBuilder} {d d' : Desk σ}

/-- Whether every call of a function gives as many handles as a signature has return types. -/
def ScriptBuilder.Fits (builder : ScriptBuilder) (id : FunctionId) (sig : Signature) : Prop :=
  ∀ before types args, (builder.outputs before ⟨id.text, types, args⟩).length = sig.arity

/-- Whether the builder fits every signature that a source answers with. -/
def ScriptBuilder.FitsSource (builder : ScriptBuilder) (src : Source σ) : Prop :=
  ∀ id s sig, (src.function id s).1 = .ok (some sig) → builder.Fits id sig

/-- Whether the builder fits every signature that is stored. -/
def ScriptBuilder.FitsCache (builder : ScriptBuilder) (c : Cache) : Prop :=
  ∀ id : FunctionId, ∀ sig, c.functions.lookup id.text = some (some sig) → builder.Fits id sig

/-- What is answered fits, whether it was stored or not. -/
theorem ScriptBuilder.FitsCache.fits_function (h : builder.FitsCache d.cache)
    (hsrc : builder.FitsSource src) {id : FunctionId} {sig : Signature}
    (ha : (d.function src id).1 = .ok (some sig)) : builder.Fits id sig := by
  cases hc : d.cache.functions.lookup id.text with
  | some hit =>
    rw [Desk.function_of_cached hc] at ha
    obtain rfl := Except.ok.inj ha
    exact h id sig hc
  | none =>
    rw [Desk.function_of_not_cached hc] at ha
    exact hsrc id d.source sig ha

/-- After a lookup nothing else is stored of the function than what was answered. -/
theorem fst_function_of_stored {id : FunctionId} {hit : Option Signature}
    (h : (d.function src id).2.cache.functions.lookup id.text = some hit) :
    (d.function src id).1 = .ok hit := by
  unfold Desk.function at h ⊢
  split at h
  next stored hc =>
    rw [hc] at h
    exact congrArg Except.ok (Option.some.inj h)
  next hc =>
    split at h
    next =>
      rw [hc] at h
      cases h
    next found _ hs =>
      have hsame : found = hit := by simpa [List.lookup_append, hc] using h
      exact congrArg Except.ok hsame

theorem ScriptBuilder.FitsCache.function (h : builder.FitsCache d.cache)
    (hsrc : builder.FitsSource src) (id : FunctionId) :
    builder.FitsCache (d.function src id).2.cache := by
  intro other sig hsig
  by_cases hother : other = id
  · subst hother
    exact h.fits_function hsrc (fst_function_of_stored hsig)
  · rw [Desk.lookup_function_of_ne hother] at hsig
    exact h other sig hsig

/-- Whatever is looked up, the builder fits what is stored. -/
theorem ScriptBuilder.FitsCache.of_leads (h : builder.FitsCache d.cache)
    (hsrc : builder.FitsSource src) (hl : d.Leads src d') : builder.FitsCache d'.cache := by
  induction hl with
  | refl => exact h
  | function id _ ih => exact ih (h.function hsrc id)
  | struct id _ ih =>
    refine ih fun id sig hsig => h id sig ?_
    rwa [Desk.functions_struct] at hsig

/-- A builder that fits the cache honours the signatures that are found for a graph. -/
theorem ScriptBuilder.FitsCache.honours (h : builder.FitsCache d.cache)
    (hsrc : builder.FitsSource src) (g : StepGraph) : builder.Honours g (foundFor src g d) := by
  intro s _ sig hfound
  have hstart := h.of_leads hsrc (leads_fetchEach src (g.functionIds.takeWhile (· ≠ s.function)) d)
  have hanswer : answerFor src g d s.function = .ok (some sig) := by
    rw [foundFor] at hfound
    cases ha : answerFor src g d s.function with
    | error e =>
      rw [ha] at hfound
      cases hfound
    | ok found =>
      rw [ha] at hfound
      exact congrArg Except.ok hfound
  exact hstart.fits_function hsrc hanswer

/-! ## Requests -/

/-- What a session may be asked. -/
inductive Request where
  | addStep (draft : StepGraph.Draft)
  | trackTokens (tokens : List Token)
  | validate
  | build (feePayer : Bool)
  | simulate (feePayer : Bool)
  /-- A composition that was simulated is executed. -/
  | execute (c : Composed)

/-- What a session answers. -/
inductive Reply where
  | done
  | report (r : Report)
  | built (b : Built)
  | composed (c : Composed)
  | executed (answer : Json)

/-- The answer to a request, and the session after it. -/
def Session.ask (p : Services σ) (s : Session σ) : Request → Except Error Reply × Session σ
  | .addStep draft =>
    match s.addStep draft with
    | .error e => (.error e, s)
    | .ok s => (.ok .done, s)
  | .trackTokens tokens => (.ok .done, s.trackTokens tokens)
  | .validate => Prod.map (Except.map Reply.report) id (s.validate p)
  | .build feePayer => Prod.map (Except.map Reply.built) id (s.build p feePayer)
  | .simulate feePayer => Prod.map (Except.map Reply.composed) id (s.simulate p feePayer)
  | .execute c => ((c.execute p.executor).map Reply.executed, s)

/-- The session after requests in a row. -/
def Session.askAll (p : Services σ) (s : Session σ) (requests : List Request) : Session σ :=
  requests.foldl (fun s q => (s.ask p q).2) s

/-- A request, and the session that it is made to. -/
structure Moment (σ : Type) where
  session : Session σ
  request : Request

namespace Moment

def answer (p : Services σ) (m : Moment σ) : Except Error Reply := (m.session.ask p m.request).1

/-- The session after the request. -/
def after (p : Services σ) (m : Moment σ) : Session σ := (m.session.ask p m.request).2

end Moment

/-- The moments of requests in a row. -/
def moments (p : Services σ) (s : Session σ) : List Request → List (Moment σ)
  | [] => []
  | q :: rest => ⟨s, q⟩ :: moments p (s.ask p q).2 rest

/-- Whether the graph has steps, and its validation no hard finding. -/
def Session.passes (p : Services σ) (s : Session σ) : Bool :=
  !s.graph.steps.isEmpty &&
    match (s.validate p).1 with
    | .ok report => report.ok
    | .error _ => false

/-- Whether a graph that passes is to be simulated. -/
def Moment.isAdmitted (p : Services σ) (m : Moment σ) : Bool :=
  match m.request with
  | .simulate _ => m.session.passes p
  | _ => false

/-- Whether a transaction is that of the graph that is to be simulated at a moment: it has one call for
each step, made of the step as `Committed` tells. -/
def Simulates (p : Services σ) (m : Moment σ) (t : Transaction) : Prop :=
  ∃ feePayer report calls outputs, m.request = .simulate feePayer ∧
    t = ⟨calls.map .ofResolved, feePayer⟩ ∧
    Committed p.builder m.session.graph m.session.signer feePayer report
      (Compose.build p.source p.builder m.session.graph m.session.signer feePayer m.session.desk)
      calls outputs

/-! ## What is assumed, and kept -/

/-- What is expected of the services: lookups answer or cannot be fetched, and each call gives as many
handles as the signature of its function has return types. -/
structure Services.Behave (p : Services σ) : Prop where
  source : p.source.FailsOnlyToFetch
  builder : p.builder.FitsSource p.source

/-- Whether the simulator and the reader refuse no graph; they may fail otherwise. -/
structure Services.RefuseNot (p : Services σ) : Prop where
  simulator : ∀ place t, RefusesNot (p.simulator place t)
  reader : ∀ reader ∈ p.reader, ∀ owner asset, RefusesNot (reader owner asset)

/-- Whether the steps of a session are of known form and their literals can be decoded, and the builder
fits what is stored. -/
structure Session.Sound (p : Services σ) (s : Session σ) : Prop where
  proper : s.graph.IsProper
  decodable : s.graph.IsDecodable
  cached : p.builder.FitsCache s.desk.cache

/-- Whether the arguments of a step to be added are signers, literals that can be decoded, and
references. -/
def Request.IsSound : Request → Prop
  | .addStep draft => ∀ a ∈ draft.args, a.isTellable = true ∧
      ∀ v, a = .literal v → ∃ w, decodeLiteral v = .ok w
  | _ => True

variable {p : Services σ} {s s' : Session σ} {q : Request} {feePayer : Bool}

/-! ## The requests one by one -/

/-- How a build of a sound session ends: without a trace but for what was looked up, or with the
transaction of the graph. -/
inductive BuildEnds (p : Services σ) (s : Session σ) (feePayer : Bool) :
    Except Error Built × Session σ → Prop where
  | refused (e : Error) (desk : Desk σ) (hpasses : s.passes p = false) (he : e.IsRefusal)
      (hdesk : s.desk.Leads p.source desk) : BuildEnds p s feePayer (.error e, { s with desk })
  | committed {report : Report} {calls : List ResolvedCall} {outputs : List (List Handle)}
      (desk : Desk σ) (scripts : List Script) (entries : List Flow.Entry)
      (hpasses : s.passes p = true) (hdesk : s.desk.Leads p.source desk)
      (h : Committed p.builder s.graph s.signer feePayer report
        (Compose.build p.source p.builder s.graph s.signer feePayer s.desk) calls outputs) :
      BuildEnds p s feePayer (.ok ⟨⟨calls.map .ofResolved, feePayer⟩, report, calls⟩,
        { s with desk, scripts, entries })

theorem build_ends (hp : p.Behave) (hs : s.Sound p) (feePayer : Bool) :
    BuildEnds p s feePayer (s.build p feePayer) := by
  by_cases hne : s.graph.steps = []
  · have hbuild : s.build p feePayer = (.error .emptyGraph, { s with desk := s.desk }) := by
      simp [Session.build, Compose.build, hne]
    have hpasses : s.passes p = false := by simp [Session.passes, hne]
    rw [hbuild]
    exact .refused _ _ hpasses .emptyGraph (.refl _)
  obtain ⟨report, hreport⟩ := exists_validate_eq_ok hp.source hs.proper s.desk
  have hleads := leads_validate p.source s.graph s.desk
  have hvalidate : (s.validate p).1 = .ok report := hreport
  have hattempt : Compose.build p.source p.builder s.graph s.signer feePayer s.desk = _ :=
    build_eq hne hreport s.signer feePayer
  cases hok : report.ok with
  | false =>
    have hpasses : s.passes p = false := by simp [Session.passes, hvalidate, hok]
    have hbuild : s.build p feePayer = (.error (.validationFailed report.errors),
        { s with desk := (Validation.validate p.source s.graph s.desk).2 }) := by
      simp [Session.build, hattempt, hok]
    rw [hbuild]
    exact .refused _ _ hpasses (.validationFailed _) hleads
  | true =>
    have hpasses : s.passes p = true := by simp [Session.passes, hvalidate, hok, hne]
    obtain ⟨calls, outputs, hcommitted⟩ := committed_of_ok hp.source hs.proper hs.decodable
      (hs.cached.honours hp.builder s.graph) hne hreport hok s.signer feePayer
    have hdesk : s.desk.Leads p.source
        (Compose.build p.source p.builder s.graph s.signer feePayer s.desk).desk := by
      rw [hattempt, if_pos hok]
      exact hleads
    rw [Session.build]
    simp only [hcommitted.result]
    exact .committed _ _ _ hpasses hdesk hcommitted

/-- Without a transaction a simulation ends as the build. -/
theorem simulate_of_refused {e : Error} (h : s.build p feePayer = (.error e, s')) :
    s.simulate p feePayer = (.error e, s') := by
  rw [Session.simulate, h]

/-- With one, it is handed over, and what is wrong afterwards refuses no graph. -/
theorem simulate_of_built {b : Built} (h : s.build p feePayer = (.ok b, s')) :
    ∃ result readings entries, s.simulate p feePayer =
        (result, { s' with simulated := s'.simulated ++ [b.transaction], readings, entries }) ∧
      (p.RefuseNot → RefusesNot result) := by
  rw [Session.simulate, h]
  dsimp only
  cases hresponse : p.simulator s'.simulated.length b.transaction with
  | error e => exact ⟨.error e, _, _, rfl, fun hp => .error (hp.simulator _ _ e hresponse)⟩
  | ok response =>
    have hactive : p.RefuseNot → ∀ t : Session σ, ∀ r ∈ t.activeReader p, ∀ owner asset,
        RefusesNot (r owner asset) := by
      intro hp t r hr
      rw [Session.activeReader] at hr
      split at hr
      · cases hr
      · exact hp.reader r hr
    have hcomposed := fun (hp : p.RefuseNot) t => compose_refuses_not (hactive hp t) t b response
    dsimp only
    generalize hout : Session.compose _ _ b response = out
    have hfails : p.RefuseNot → RefusesNot out.1 := fun hp => hout ▸ hcomposed hp _
    obtain ⟨result, readings⟩ := out
    cases result with
    | error e => exact ⟨.error e, _, _, rfl, hfails⟩
    | ok c => exact ⟨.ok c, _, _, rfl, fun _ => .ok c⟩

/-- How a simulation of a sound session ends: without a trace but for what was looked up, or with the
transaction of the graph handed over. -/
inductive SimulationEnds (p : Services σ) (s : Session σ) (feePayer : Bool) :
    Except Error Composed × Session σ → Prop where
  | refused (e : Error) (desk : Desk σ) (hpasses : s.passes p = false) (he : e.IsRefusal)
      (hdesk : s.desk.Leads p.source desk) : SimulationEnds p s feePayer (.error e, { s with desk })
  | handed (t : Transaction) (result : Except Error Composed) (desk : Desk σ)
      (scripts : List Script) (readings : List Reading) (entries : List Flow.Entry)
      (hpasses : s.passes p = true) (hdesk : s.desk.Leads p.source desk)
      (ht : Simulates p ⟨s, .simulate feePayer⟩ t)
      (hresult : p.RefuseNot → RefusesNot result) :
      SimulationEnds p s feePayer (result,
        { s with desk, scripts, simulated := s.simulated ++ [t], readings, entries })

theorem simulation_ends (hp : p.Behave) (hs : s.Sound p) (feePayer : Bool) :
    SimulationEnds p s feePayer (s.simulate p feePayer) := by
  have hends := build_ends hp hs feePayer
  generalize hbuild : s.build p feePayer = out at hends
  cases hends with
  | refused e desk hpasses he hdesk =>
    rw [simulate_of_refused hbuild]
    exact .refused e desk hpasses he hdesk
  | committed desk scripts entries hpasses hdesk h =>
    obtain ⟨result, readings, entries', hsimulate, hresult⟩ := simulate_of_built hbuild
    rw [hsimulate]
    exact .handed _ result desk scripts readings entries' hpasses hdesk
      ⟨feePayer, _, _, _, rfl, rfl, h⟩ hresult

/-- How a request to a sound session ends, and all that it changes. -/
inductive RequestEnds (p : Services σ) (s : Session σ) :
    Request → Except Error Reply × Session σ → Prop where
  | added {draft : StepGraph.Draft} {g : StepGraph} (h : s.graph.add draft = .ok g) :
      RequestEnds p s (.addStep draft) (.ok .done, { s with graph := g })
  | notAdded {draft : StepGraph.Draft} (e : Error) :
      RequestEnds p s (.addStep draft) (.error e, s)
  | tracked (tokens : List Token) :
      RequestEnds p s (.trackTokens tokens) (.ok .done, s.trackTokens tokens)
  | lookedUp {q : Request} (answer : Except Error Reply) (desk : Desk σ)
      (hadmitted : Moment.isAdmitted p ⟨s, q⟩ = false) (hdesk : s.desk.Leads p.source desk) :
      RequestEnds p s q (answer, { s with desk })
  | built {feePayer : Bool} (b : Built) (desk : Desk σ) (scripts : List Script)
      (entries : List Flow.Entry) (hdesk : s.desk.Leads p.source desk) :
      RequestEnds p s (.build feePayer) (.ok (.built b), { s with desk, scripts, entries })
  | handed {feePayer : Bool} (t : Transaction) (result : Except Error Composed) (desk : Desk σ)
      (scripts : List Script) (readings : List Reading) (entries : List Flow.Entry)
      (hadmitted : Moment.isAdmitted p ⟨s, .simulate feePayer⟩ = true)
      (hdesk : s.desk.Leads p.source desk) (ht : Simulates p ⟨s, .simulate feePayer⟩ t)
      (hresult : p.RefuseNot → RefusesNot result) :
      RequestEnds p s (.simulate feePayer) (result.map .composed,
        { s with desk, scripts, simulated := s.simulated ++ [t], readings, entries })

theorem request_ends (hp : p.Behave) (hs : s.Sound p) (q : Request) :
    RequestEnds p s q (s.ask p q) := by
  cases q with
  | addStep draft =>
    rw [Session.ask]
    cases hadd : s.addStep draft with
    | error e => exact .notAdded e
    | ok s' =>
      obtain ⟨g, hg, h⟩ := bind_eq_ok_iff.1 hadd
      obtain rfl := Except.ok.inj h
      exact .added hg
  | trackTokens tokens => exact .tracked tokens
  | validate => exact .lookedUp _ _ rfl (leads_validate p.source s.graph s.desk)
  | build feePayer =>
    have hends := build_ends hp hs feePayer
    rw [Session.ask]
    generalize s.build p feePayer = out at hends
    cases hends with
    | refused e desk _ _ hdesk => exact .lookedUp (.error e) desk rfl hdesk
    | committed desk scripts entries _ hdesk => exact .built _ desk scripts entries hdesk
  | simulate feePayer =>
    have hends := simulation_ends hp hs feePayer
    rw [Session.ask]
    generalize s.simulate p feePayer = out at hends
    cases hends with
    | refused e desk hpasses _ hdesk => exact .lookedUp (.error e) desk hpasses hdesk
    | handed t result desk scripts readings entries hpasses hdesk ht hresult =>
      exact .handed t result desk scripts readings entries hpasses hdesk ht hresult
  | execute c => exact .lookedUp _ s.desk rfl (.refl _)

/-! ## What one request keeps, and hands over -/

/-- A session stays sound when a step is added. -/
theorem Session.Sound.add (hs : s.Sound p) {draft : StepGraph.Draft} {g : StepGraph}
    (hq : (Request.addStep draft).IsSound) (h : s.graph.add draft = .ok g) :
    Session.Sound p { s with graph := g } := by
  obtain ⟨step, hstep, hsteps⟩ := StepGraph.exists_step_of_add h
  refine ⟨hs.proper.add (fun a ha => (hq a ha).1) h, fun t ht v hv => ?_, hs.cached⟩
  rw [hsteps] at ht
  rcases List.mem_append.1 ht with hold | hnew
  · exact hs.decodable t hold v hv
  · rw [List.mem_singleton.1 hnew, hstep.args] at hv
    exact (hq _ hv).2 v rfl

/-- It stays sound as long as its graph is the same, whatever is looked up. -/
theorem Session.Sound.of_leads (hp : p.Behave) (hs : s.Sound p) (hgraph : s'.graph = s.graph)
    (hdesk : s.desk.Leads p.source s'.desk) : s'.Sound p :=
  ⟨hgraph ▸ hs.proper, hgraph ▸ hs.decodable, hs.cached.of_leads hp.builder hdesk⟩

/-- **A sound session stays sound**, whatever it is asked. -/
theorem sound_ask (hp : p.Behave) (hs : s.Sound p) (hq : q.IsSound) : (s.ask p q).2.Sound p := by
  have hends := request_ends hp hs q
  generalize s.ask p q = out at hends
  cases hends with
  | added h => exact hs.add hq h
  | notAdded => exact hs
  | tracked => exact hs.of_leads hp rfl (.refl _)
  | lookedUp _ _ _ hdesk => exact hs.of_leads hp rfl hdesk
  | built _ _ _ _ hdesk => exact hs.of_leads hp rfl hdesk
  | handed _ _ _ _ _ _ _ hdesk => exact hs.of_leads hp rfl hdesk

/-- What one request hands over: the transaction of the graph, if a graph that passes is to be
simulated, and else nothing. -/
theorem simulated_ask (hp : p.Behave) (hs : s.Sound p) (q : Request) :
    (Moment.isAdmitted p ⟨s, q⟩ = true ∧ ∃ t, Simulates p ⟨s, q⟩ t ∧
      (s.ask p q).2.simulated = s.simulated ++ [t]) ∨
    (Moment.isAdmitted p ⟨s, q⟩ = false ∧ (s.ask p q).2.simulated = s.simulated) := by
  have hends := request_ends hp hs q
  generalize s.ask p q = out at hends
  cases hends with
  | added | notAdded | tracked | built => exact Or.inr ⟨rfl, rfl⟩
  | lookedUp _ _ hadmitted => exact Or.inr ⟨hadmitted, rfl⟩
  | handed t _ _ _ _ _ hadmitted _ ht => exact Or.inl ⟨hadmitted, t, ht, rfl⟩

/-- A step that is not added leaves the session as it was. -/
theorem ask_of_not_added {draft : StepGraph.Draft} {e : Error}
    (h : (s.ask p (.addStep draft)).1 = .error e) : (s.ask p (.addStep draft)).2 = s := by
  rw [Session.ask] at h ⊢
  cases hadd : s.addStep draft with
  | error e' => rfl
  | ok s' =>
    rw [hadd] at h
    cases h

/-- A request that is refused leaves the session as it was, but for what was looked up. -/
theorem ask_of_refusal (hp : p.Behave) (hr : p.RefuseNot) (hs : s.Sound p) {e : Error}
    (he : e.IsRefusal)
    (h : (s.ask p q).1 = .error e) : ∃ desk, (s.ask p q).2 = { s with desk } := by
  have hends := request_ends hp hs q
  generalize s.ask p q = out at hends h
  cases hends with
  | added | tracked | built => cases h
  | notAdded => exact ⟨s.desk, rfl⟩
  | lookedUp _ desk => exact ⟨desk, rfl⟩
  | handed t result _ _ _ _ _ _ _ hresult =>
    cases result with
    | ok c => cases h
    | error e' =>
      obtain rfl := Except.error.inj h
      exact absurd he (hresult hr e' rfl)

/-! ## All of them -/

/-- What there is to tell of requests in a row. -/
structure OnlyValidated (p : Services σ) (s : Session σ) (requests : List Request) : Prop where
  /-- What was handed to the simulator is, in order, one transaction for each time that a graph that
  passes was to be simulated, that of the graph at that moment. -/
  simulated : ∃ ts, (s.askAll p requests).simulated = s.simulated ++ ts ∧
    List.Forall₂ (Simulates p) ((moments p s requests).filter (Moment.isAdmitted p)) ts
  /-- A step that is not added leaves the session as it was. -/
  notAdded : ∀ m ∈ moments p s requests, ∀ draft e, m.request = .addStep draft →
    m.answer p = .error e → m.after p = m.session
  /-- A graph that is refused leaves everything in the session as it was, but for what was looked
  up. -/
  refused : p.RefuseNot → ∀ m ∈ moments p s requests, ∀ e, e.IsRefusal → m.answer p = .error e →
    ∃ desk, m.after p = { m.session with desk }

/-- **Nothing reaches the simulator unvalidated**, in whatever order requests are made. -/
theorem dialogue_only_validated (hp : p.Behave) (hs : s.Sound p) {requests : List Request}
    (hrequests : ∀ q ∈ requests, q.IsSound) : OnlyValidated p s requests := by
  induction requests generalizing s with
  | nil =>
    exact ⟨⟨[], (List.append_nil _).symm, .nil⟩, by simp [moments], by simp [moments]⟩
  | cons q rest ih =>
    obtain ⟨hq, hrest⟩ := List.forall_mem_cons.1 hrequests
    obtain ⟨⟨ts, hts, hforall⟩, hnotAdded, hrefused⟩ := ih (sound_ask hp hs hq) hrest
    have hall : s.askAll p (q :: rest) = (s.ask p q).2.askAll p rest := rfl
    refine ⟨?_, ?_, ?_⟩
    · rw [hall, hts, moments]
      rcases simulated_ask hp hs q with ⟨hadmitted, t, ht, hsimulated⟩ | ⟨hadmitted, hsimulated⟩
      · refine ⟨t :: ts, by rw [hsimulated, List.append_assoc, List.singleton_append], ?_⟩
        rw [List.filter_cons_of_pos hadmitted]
        exact .cons ht hforall
      · refine ⟨ts, by rw [hsimulated], ?_⟩
        rw [List.filter_cons_of_neg (by rw [hadmitted]; exact Bool.false_ne_true)]
        exact hforall
    · rw [moments, List.forall_mem_cons]
      refine ⟨fun draft e hdraft h => ?_, hnotAdded⟩
      obtain rfl : q = .addStep draft := hdraft
      exact ask_of_not_added h
    · intro hr
      rw [moments, List.forall_mem_cons]
      exact ⟨fun e he h => ask_of_refusal hp hr hs he h, hrefused hr⟩

/-! ## A payment in the making -/

/-- Who knows the functions of coins, and finds every payment in order. -/
def counter : Services Unit where
  source := coinSource
  builder := coinBuilder
  simulator _ _ := .ok (.obj [("success", .bool true)])

/-- The payment is put together step by step. It is simulated before there is a step, and a label comes
twice. -/
def dealing : List Request :=
  [.simulate true,
    .addStep
      { label := .str "take", function := .field (.str withdraw.text)
        args := [.signer, .literal (.str "5n")] },
    .addStep { label := .str "take", function := .field (.str deposit.text) },
    .validate,
    .addStep
      { label := .str "pay", function := .field (.str deposit.text)
        args := [.literal (.str "0x2"), .ref ⟨"take", 0, .move⟩] },
    .simulate true]

/-- A session without steps. -/
def newcomer : Session Unit := { desk := ⟨{}, ()⟩, graph := .empty }

theorem behave_counter : counter.Behave where
  source := failsOnlyToFetch_coinSource
  builder := by
    intro id s sig hsig before types args
    have hfound := Except.ok.inj hsig
    rw [List.lookup_cons] at hfound
    split at hfound
    next hid =>
      obtain rfl := beq_iff_eq.1 hid
      obtain rfl := Option.some.inj hfound
      rfl
    next =>
      rw [List.lookup_cons] at hfound
      split at hfound
      next hid =>
        obtain rfl := beq_iff_eq.1 hid
        obtain rfl := Option.some.inj hfound
        rfl
      next => cases hfound

theorem refuseNot_counter : counter.RefuseNot where
  simulator _ _ := .ok _
  reader := by simp [counter]

theorem sound_newcomer : newcomer.Sound counter where
  proper := by simp [StepGraph.IsProper, newcomer, StepGraph.empty]
  decodable := by simp [StepGraph.IsDecodable, newcomer, StepGraph.empty]
  cached := nofun

theorem isSound_dealing : ∀ q ∈ dealing, q.IsSound := by
  simp only [dealing, List.forall_mem_cons, Request.IsSound]
  refine ⟨trivial, ⟨?_, ?_, by simp⟩, by simp, trivial, ⟨?_, ?_, by simp⟩, trivial, by simp⟩
  · exact ⟨rfl, by simp⟩
  · exact ⟨rfl, fun v hv => by cases hv; exact ⟨_, rfl⟩⟩
  · exact ⟨rfl, fun v hv => by cases hv; exact ⟨_, rfl⟩⟩
  · exact ⟨rfl, by simp⟩

/-- Only the whole payment reaches the simulator, as one transaction of two calls; nothing is left of
the attempt to simulate it before there is a step. -/
theorem dialogue_only_validated_dealing : counter.Behave ∧ newcomer.Sound counter ∧
    (∀ q ∈ dealing, q.IsSound) ∧ OnlyValidated counter newcomer dealing ∧
    (newcomer.askAll counter dealing).simulated.map (·.calls.map ScriptCall.function) =
      [[withdraw.text, deposit.text]] ∧
    ∃ desk, (newcomer.ask counter (.simulate true)).2 = { newcomer with desk } := by
  have honly : OnlyValidated counter newcomer dealing :=
    dialogue_only_validated behave_counter sound_newcomer isSound_dealing
  have hfirst : ⟨newcomer, .simulate true⟩ ∈ moments counter newcomer dealing := List.mem_cons_self
  exact ⟨behave_counter, sound_newcomer, isSound_dealing, honly, by decide +kernel,
    honly.refused refuseNot_counter _ hfirst _ .emptyGraph rfl⟩

end Compose

end MovePlan
