import MovePlan.Proofs.Flow.Run
import MovePlan.Proofs.Json.WellFormed
import MovePlan.Proofs.Tracking.Expectations

/-!
# What a run has to write

Into its journal a run writes what it made itself, such as the balances, each asset once, and loose
values from outside: the label and the descriptions of each stage, and the data of events from the
responses. Where those can be read back, as all values can that a text says, the result of each call is
well-formed (`wellFormed_of_runStages`). It can still not be written if it has an integer with too many
digits, since sums and differences may have more digits than what they are made of.
-/

namespace MovePlan

open Json (wellFormed_obj_iff wellFormed_arr_iff)

namespace Simulation

variable {fields : Json.Fields}

/-! ## Responses -/

/-- A value in a response is one that a text says, missing ones being null. -/
theorem wellFormed_valueIn (h : (Json.obj fields).WellFormed) (key : String) :
    (valueIn fields key).WellFormed := by
  cases hf : Json.field? key fields with
  | none => simp [valueIn, hf]
  | some v => simpa [valueIn, hf] using h.of_field? hf

/-- The objects in a well-formed list are well-formed. -/
theorem wellFormed_of_mem_objectsOf {j : Json} (h : j.WellFormed) (hf : fields ∈ objectsOf j) :
    (Json.obj fields).WellFormed := by
  cases j with
  | arr xs =>
    obtain ⟨x, hx, hfields⟩ := List.mem_filterMap.1 hf
    cases x with
    | obj fs =>
      cases hfields
      exact wellFormed_arr_iff.1 h _ hx
    | _ => cases hfields
  | _ => cases hf

/-- The events of an outcome are as well-formed as the response. -/
theorem wellFormed_of_mem_events {j : Json} {o : Outcome} (hj : j.WellFormed)
    (h : Outcome.ofResponse j = .ok o) (hf : fields ∈ o.events) : (Json.obj fields).WellFormed := by
  have hanswer : ∀ answer : Json, answer.WellFormed → Outcome.ofAnswer answer = .ok o →
      (Json.obj fields).WellFormed := by
    intro answer hwell h
    cases answer with
    | obj fs =>
      obtain ⟨gasUsed, -, h⟩ := Error.bind_eq_ok_iff.1 h
      obtain ⟨gasPrice, -, h⟩ := Error.bind_eq_ok_iff.1 h
      cases h
      exact wellFormed_of_mem_objectsOf (wellFormed_valueIn hwell "events") hf
    | _ => cases h
  unfold Outcome.ofResponse at h
  split at h
  · cases h
  · next first rest => exact hanswer first (wellFormed_arr_iff.1 hj _ List.mem_cons_self) h
  · exact hanswer j hj h

/-- The data of an event is an object of the response, or empty. -/
theorem wellFormed_data_ofFields (h : (Json.obj fields).WellFormed) :
    (Json.obj (Event.ofFields fields).data).WellFormed := by
  have hvalue := wellFormed_valueIn h "data"
  show (Json.obj ((valueIn fields "data").fields?.getD [])).WellFormed
  cases hdata : valueIn fields "data" with
  | obj fs => exact hdata ▸ hvalue
  | _ => simp [Json.fields?]

/-- A cost is a number that a text says. -/
theorem isProper_gasCost {o : Outcome} {x : Numeric.Binary64} (h : o.gasCost = .ok x) :
    x.IsProper := by
  unfold Outcome.gasCost at h
  split at h
  · next hx =>
    cases h
    exact Numeric.Binary64.isProper_of_divInt? (by decide) hx
  · cases h

/-! ## Views -/

theorem wellFormed_event {e : Event} (h : (Json.obj e.data).WellFormed) : e.toJson.WellFormed := by
  have hdata := wellFormed_obj_iff.1 h
  simpa [Event.toJson] using hdata

theorem wellFormed_vault (v : Vault) : v.toJson.WellFormed := by simp [Vault.toJson]

end Simulation

open Simulation Tracking

theorem Token.wellFormed (t : Token) : t.toJson.WellFormed := by simp [Token.toJson]

/-- Balances are an object if no asset is there twice. -/
theorem Balances.wellFormed {b : Balances} (h : b.assets.Nodup) : b.toJson.WellFormed := by
  have hkeys : (b.map fun e => (e.1, Json.int e.2)).map Prod.fst = b.assets := by
    rw [List.map_map]
    rfl
  rw [toJson, wellFormed_obj_iff, hkeys]
  exact ⟨h, List.forall_mem_map.2 fun e _ => .int e.2⟩

namespace Tracking

theorem wellFormed_delta (d : Delta) : d.toJson.WellFormed := by
  simp [Delta.toJson, d.token.wellFormed]

/-- A verdict has no text from elsewhere but its description. -/
theorem wellFormed_verdict {v : Verdict} (h : v.description.WellFormed) : v.toJson.WellFormed := by
  simp [Verdict.toJson, h]

/-- The descriptions of verdicts are those of the expectations. -/
theorem wellFormed_of_judgeAll {deltas : List Delta} {before after : Option Vault}
    {es : List Expectation} {vs : List Verdict} (hes : ∀ e ∈ es, e.description.WellFormed)
    (h : judgeAll deltas before after es = .ok vs) : ∀ v ∈ vs, v.description.WellFormed := by
  have hpairs := (List.forall₂_and_left _ _).2 ⟨hes, judgeAll_eq_ok rfl h⟩
  exact ((List.forall₂_and_left _ _).1
    (hpairs.flip.imp fun v e he => ⟨he.2.1 ▸ he.1, he⟩)).1

end Tracking

namespace Flow

/-! ## Results -/

/-- Whether the loose values of a stage can be written. -/
structure Stage.Writable (s : Stage) : Prop where
  label : s.label.IsReadable
  description : s.description.IsReadable
  expectations : ∀ e ∈ s.expectations, e.description.IsReadable

/-- Whether the loose values of a flow can be written, and all that there is to be written at the start
of its run: the number of its stages, and its description with the payloads and the tokens. -/
structure Writable (f : Flow) : Prop where
  name : f.name.IsReadable
  stages : ∀ s ∈ f.stages, s.Writable
  begins : ∀ e ∈ startEntries f, e.isWritable = true

/-- Whether the result of a call is well-formed, and has a label that can be read back. -/
structure StageResult.WellFormed (r : StageResult) : Prop where
  label : r.label.IsReadable
  description : r.description.WellFormed
  gasCost : r.gasCost.IsProper
  events : ∀ e ∈ r.events, (Json.obj e.data).WellFormed
  balances : r.balances.assets.Nodup
  verdicts : ∀ v ∈ r.verdicts, v.description.WellFormed

/-- The row of a result is one that a text says, if its parts are. -/
theorem StageResult.WellFormed.toJson {r : StageResult} (h : r.WellFormed) :
    r.toJson.WellFormed := by
  have hevents := List.forall_mem_map.2 fun e he => wellFormed_event (h.events e he)
  have hverdicts := List.forall_mem_map.2 fun v hv => wellFormed_verdict (h.verdicts v hv)
  have hdeltas := List.forall_mem_map.2 fun d (_ : d ∈ r.deltas) => wellFormed_delta d
  have hvault : (Json.ofOption Vault.toJson r.vault).WellFormed :=
    Json.wellFormed_ofOption.2 fun v _ => wellFormed_vault v
  have hduration := r.duration.isProper_roundPlaces durationPlaces
  refine .obj (by simp) ?_
  simp only [List.forall_mem_cons]
  exact ⟨h.label.wellFormed, h.description, .bool _, .str _, .int _, .float h.gasCost, .arr hevents,
    Balances.wellFormed h.balances, hvault, .arr hdeltas, .arr hverdicts, .float hduration,
    List.forall_mem_nil _⟩

variable {p : Services} {f : Flow} {before after last : Carried} {place : Nat}

/-- The result of a call comes from its stage, its response and what was held before. -/
theorem wellFormed_of_resultOf {s : Stage} {response : Json} {duration : Numeric.Binary64}
    {r : StageResult} (hs : s.Writable) (hresponse : response.WellFormed)
    (hbefore : before.balances.assets.Nodup)
    (h : resultOf f s before response duration = .ok (r, after)) :
    r.WellFormed ∧ after.balances.assets.Nodup := by
  obtain ⟨o, ho, a, ha, deltas, -, verdicts, hverdicts, gasCost, hcost, -, rfl, rfl⟩ :=
    resultOf_eq_ok_iff.1 h
  have hbalances := Balances.nodup_overlay hbefore a.balances
  obtain ⟨hevents, -⟩ := analyze_eq_ok ha
  refine ⟨⟨hs.label, hs.description.wellFormed, isProper_gasCost hcost, ?_, hbalances,
    wellFormed_of_judgeAll (fun e he => (hs.expectations e he).wellFormed) hverdicts⟩, hbalances⟩
  intro e he
  obtain ⟨fields, hfields, rfl⟩ := List.mem_map.1 (hevents ▸ he)
  exact wellFormed_data_ofFields (wellFormed_of_mem_events hresponse ho hfields)

/-- Whether all answers to the calls are values that a text says. -/
def Services.GivesReadable (p : Services) : Prop :=
  ∀ place payload response, p.simulator place payload = .ok response → response.IsReadable

/-- One call keeps that, and leaves balances in which no asset is there twice. -/
theorem wellFormed_of_call {s : Stage} {r : StageResult} (hp : p.GivesReadable) (hs : s.Writable)
    (hbefore : before.balances.assets.Nodup) (h : p.call f place before s = .ok (r, after)) :
    r.WellFormed ∧ after.balances.assets.Nodup := by
  obtain ⟨response, hresponse, duration, -, hcall⟩ := call_eq_ok_iff.1 h
  exact wellFormed_of_resultOf hs (hp _ _ _ hresponse).wellFormed hbefore hcall

/-- **The results of calls in a row are well-formed**, and each asset is carried on once. -/
theorem wellFormed_of_runStages {stages : List Stage} {results : List StageResult}
    (hp : p.GivesReadable) (hstages : ∀ s ∈ stages, s.Writable) (hbefore : before.balances.assets.Nodup)
    (h : (runStages p f place before stages).result = .ok (results, last)) :
    (∀ r ∈ results, r.WellFormed) ∧ last.balances.assets.Nodup := by
  induction stages generalizing place before results with
  | nil =>
    obtain ⟨rfl, rfl⟩ := Prod.ext_iff.1 (Except.ok.inj h)
    exact ⟨List.forall_mem_nil _, hbefore⟩
  | cons s rest ih =>
    obtain ⟨hs, hrest⟩ := List.forall_mem_cons.1 hstages
    obtain ⟨r, after, later, hstage, hlater, rfl⟩ := runStages_cons_eq_ok_iff.1 h
    obtain ⟨hr, hafter⟩ := wellFormed_of_call hp hs hbefore (runStage_eq_ok_iff.1 hstage).1
    obtain ⟨hresults, hlast⟩ := ih hrest hafter hlater
    exact ⟨List.forall_mem_cons.2 ⟨hr, hresults⟩, hlast⟩

/-- Where there is a journal, the results of calls that went through are in it, and so can be
written. -/
theorem isWritable_of_runStages {stages : List Stage} {results : List StageResult}
    (hlogged : p.isLogged = true)
    (h : (runStages p f place before stages).result = .ok (results, last)) :
    ∀ r ∈ results, r.toJson.isWritable = true := by
  induction stages generalizing place before results with
  | nil =>
    obtain ⟨rfl, -⟩ := Prod.ext_iff.1 (Except.ok.inj h)
    exact List.forall_mem_nil _
  | cons s rest ih =>
    obtain ⟨r, after, later, hstage, hlater, rfl⟩ := runStages_cons_eq_ok_iff.1 h
    obtain ⟨-, hall⟩ := record_eq_of_ok hlogged (runStage_eq_ok_iff.1 hstage).2
    have hrow : (Entry.step r.toJson).isWritable = true := hall _ (by simp [stageEntries])
    exact List.forall_mem_cons.2 ⟨hrow, ih hlater⟩

end Flow

end MovePlan
