import MovePlan.Proofs.Diagnosis.Rules
import MovePlan.Proofs.Flow.Rows
import MovePlan.Proofs.Flow.Writable

/-!
# What the journal tells of a run

A run ends in one of five ways: the snapshot cannot be taken, a call does not go through, the journal
cannot take the result of a call, the run cannot be finished, or there is a report (`cases_of_error`).
What it hands over up to then is known from the results of the calls that went through: after the
start, an event and a row for each of them, and after them the end, if there is a report.

So the journal is a faithful beginning of the run. Its files have a line for each of these rows, in
order, whatever characters are in labels, statuses and data, and each line is read back as its row
(`recorded_of_openIn`). Failures are diagnosed only after the last call. So one that cannot be, since
the code of its abort has too many digits, is raised after all rows were written
(`tells_of_undiagnosed`).
-/

namespace MovePlan.Flow

open Storage Tracking Simulation Numeric

variable {p : Services} {f : Flow} {place k : Nat} {before after last : Carried} {s : Stage}
  {r : StageResult} {stages : List Stage} {results : List StageResult} {e : Error} {es : List Entry}
  {initial : Snapshot} {report : Report}

/-! ## Calls in a row that stop -/

/-- A call that does not go through hands nothing over. -/
theorem runStage_of_error (h : p.call f place before s = .error e) :
    runStage p f place before s = (.error e, []) := by
  rw [runStage, h]

/-- A call that goes through hands over its event and its result, which may be too much for the
journal. -/
theorem runStage_of_ok (hlogged : p.isLogged = true) (hlabel : r.label.isWritable = true)
    (h : p.call f place before s = .ok (r, after)) :
    runStage p f place before s =
      (if r.toJson.isWritable then .ok (r, after) else .error .tooManyDigits, stageEntries r) := by
  rw [runStage, h]
  simp only [Services.record, if_pos hlogged, handOver_stageEntries hlabel]
  split <;> rfl

/-- A run stops at the first stage that fails, and records what this stage gave. -/
theorem runStages_cons_of_error (h : runStage p f place before s = (.error e, es)) :
    runStages p f place before (s :: stages) = ⟨.error e, [s.payload], es⟩ := by
  rw [runStages, h]

/-- After a stage that works out, the entries of the others follow its own. -/
theorem runStages_cons_of_ok (h : runStage p f place before s = (.ok (r, after), es)) :
    runStages p f place before (s :: stages) =
      ⟨(runStages p f (place + 1) after stages).result.map fun (rs, last) => (r :: rs, last),
        s.payload :: (runStages p f (place + 1) after stages).simulated,
        es ++ (runStages p f (place + 1) after stages).entries⟩ := by
  rw [runStages, h]

/-- What a stage hands over that goes through. -/
theorem runStage_eq_of_ok (hlogged : p.isLogged = true)
    (h : (runStage p f place before s).1 = .ok (r, after)) :
    runStage p f place before s = (.ok (r, after), stageEntries r) := by
  obtain ⟨hcall, hrecord⟩ := runStage_eq_ok_iff.1 h
  obtain ⟨htaken, -⟩ := record_eq_of_ok hlogged hrecord
  rw [runStage, hcall]
  simp only [htaken]
  rfl

/-- What calls hand over that all go through. -/
theorem entries_of_runStages (hlogged : p.isLogged = true)
    (h : (runStages p f place before stages).result = .ok (results, last)) :
    (runStages p f place before stages).entries = results.flatMap stageEntries := by
  induction stages generalizing place before results with
  | nil =>
    obtain ⟨rfl, rfl⟩ := Prod.ext_iff.1 (Except.ok.inj h)
    rfl
  | cons s rest ih =>
    obtain ⟨r, after, later, hstage, hlater, rfl⟩ := runStages_cons_eq_ok_iff.1 h
    rw [runStages_cons_of_ok (runStage_eq_of_ok hlogged hstage), ih hlater, List.flatMap_cons]

/-- Calls stop at the first stage that does not go through. Up to then they hand over what those before
it do, and what that stage does. -/
theorem runStages_of_error (hlogged : p.isLogged = true) (hs : stages[k]? = some s)
    (hbefore : (runStages p f place before (stages.take k)).result = .ok (results, last))
    (h : runStage p f (place + k) last s = (.error e, es)) :
    (runStages p f place before stages).result = .error e ∧
      (runStages p f place before stages).entries = results.flatMap stageEntries ++ es := by
  -- on the number of stages before it, from the first one on
  induction k generalizing place before stages results with
  | zero =>
    obtain ⟨rest, rfl⟩ : ∃ rest, stages = s :: rest := by
      cases stages with
      | nil => cases hs
      | cons s' rest => exact ⟨rest, by rw [Option.some.inj hs]⟩
    obtain ⟨rfl, rfl⟩ := Prod.mk.inj (Except.ok.inj hbefore)
    have hfails : runStage p f place before s = (.error e, es) := h
    rw [runStages_cons_of_error hfails]
    exact ⟨rfl, rfl⟩
  | succ k ih =>
    cases stages with
    | nil => cases hs
    | cons s' rest =>
      obtain ⟨r, after, later, hstage, hlater, rfl⟩ := runStages_cons_eq_ok_iff.1 hbefore
      rw [Nat.add_comm k, ← Nat.add_assoc] at h
      obtain ⟨hresult, hentries⟩ := ih hs hlater h
      rw [runStages_cons_of_ok (runStage_eq_of_ok hlogged hstage), hresult, hentries,
        List.flatMap_cons, List.append_assoc]
      exact ⟨rfl, rfl⟩

/-- Calls that do not all go through stop at one. -/
theorem exists_of_runStages_eq_error (h : (runStages p f place before stages).result = .error e) :
    ∃ k s results last, stages[k]? = some s ∧
      (runStages p f place before (stages.take k)).result = .ok (results, last) ∧
      (runStage p f (place + k) last s).1 = .error e := by
  -- either the first stage fails, or one of the others does, one place further on
  induction stages generalizing place before with
  | nil => cases h
  | cons s rest ih =>
    obtain ⟨es, hes⟩ : ∃ es, runStage p f place before s = ((runStage p f place before s).1, es) :=
      ⟨_, rfl⟩
    cases hstage : (runStage p f place before s).1 with
    | error e' =>
      rw [hstage] at hes
      rw [runStages_cons_of_error hes] at h
      cases h
      exact ⟨0, s, [], before, rfl, rfl, hstage⟩
    | ok called =>
      obtain ⟨r, after⟩ := called
      rw [hstage] at hes
      rw [runStages_cons_of_ok hes] at h
      have hrest : (runStages p f (place + 1) after rest).result = .error e := by
        cases hresult : (runStages p f (place + 1) after rest).result with
        | error e' =>
          rw [hresult] at h
          exact h
        | ok later =>
          rw [hresult] at h
          cases h
      obtain ⟨k, t, results, last, ht, hbefore, hfails⟩ := ih hrest
      refine ⟨k + 1, t, r :: results, last, ht, ?_, ?_⟩
      · exact runStages_cons_eq_ok_iff.2 ⟨r, after, results, hstage, hbefore, rfl⟩
      · rwa [Nat.add_comm k, ← Nat.add_assoc]

/-! ## Runs that stop -/

/-- Whether a run comes to the call at a place: the snapshot can be taken, and the stages before it go
through, with the given results. -/
def ComesTo (p : Services) (f : Flow) (k : Nat) (results : List StageResult) (last : Carried) : Prop :=
  ∃ initial, capture p.reader f.owner f.tokens = .ok initial ∧
    (runStages p f 0 ⟨initial.balances, none⟩ (f.stages.take k)).result = .ok (results, last)

/-- Whether a run stops at the call at a place: the stages before it go through, and it does not. -/
def FailsAt (p : Services) (f : Flow) (k : Nat) (e : Error) : Prop :=
  ∃ results last s, ComesTo p f k results last ∧ f.stages[k]? = some s ∧ p.call f k last s = .error e

/-- Whether a run stops after the call at a place: it goes through, and its result has an integer with
too many digits to be written. -/
def UnwrittenAt (p : Services) (f : Flow) (k : Nat) (r : StageResult) : Prop :=
  ∃ results last s after, ComesTo p f k results last ∧ f.stages[k]? = some s ∧
    p.call f k last s = .ok (r, after) ∧ r.toJson.isWritable = false

/-- The results that a run comes with are well-formed. -/
theorem ComesTo.wellFormed (h : ComesTo p f k results last) (hf : f.Writable) (hp : p.GivesReadable) :
    (∀ r ∈ results, r.WellFormed) ∧ last.balances.assets.Nodup := by
  obtain ⟨initial, hinitial, hbefore⟩ := h
  have hstages : ∀ s ∈ f.stages.take k, s.Writable := fun s hs =>
    hf.stages s (List.mem_of_mem_take hs)
  exact wellFormed_of_runStages hp hstages (nodup_of_capture hinitial) hbefore

/-- The result of a call has a label that can be read back. -/
theorem ComesTo.isReadable_label (h : ComesTo p f k results last) (hf : f.Writable)
    (hp : p.GivesReadable) (hs : f.stages[k]? = some s) (hcall : p.call f k last s = .ok (r, after)) :
    r.label.IsReadable := by
  obtain ⟨-, hlast⟩ := h.wellFormed hf hp
  exact (wellFormed_of_call hp (hf.stages s (List.mem_of_getElem? hs)) hlast hcall).1.label

/-- A run whose beginning can be written, and what its stages hand over. -/
theorem runFrom_of_record (hlogged : p.isLogged = true)
    (hbegins : ∀ e ∈ startEntries f, e.isWritable = true) (initial : Snapshot) :
    (∀ e, (runStages p f 0 ⟨initial.balances, none⟩ f.stages).result = .error e →
      (runFrom p f initial).1 = .error e ∧ (runFrom p f initial).2.2 =
        startEntries f ++ (runStages p f 0 ⟨initial.balances, none⟩ f.stages).entries) ∧
    ∀ results last,
      (runStages p f 0 ⟨initial.balances, none⟩ f.stages).result = .ok (results, last) →
      (runFrom p f initial).1 = (finish p f initial results last).1 ∧ (runFrom p f initial).2.2 =
        startEntries f ++ results.flatMap stageEntries ++ (finish p f initial results last).2 := by
  have hstart : p.record (startEntries f) = (startEntries f, .ok ()) := by
    rw [Services.record, if_pos hlogged, handOver_of_writable hbegins]
  constructor
  · intro e he
    simp [runFrom, hstart, he]
  · intro results last hall
    simp [runFrom, hstart, hall, entries_of_runStages hlogged hall]

/-- Without the first balances nothing is recorded. -/
theorem dryRun_of_uncaptured (h : capture p.reader f.owner f.tokens = .error e) :
    (dryRun p f).result = .error e ∧ (dryRun p f).entries = [] := by
  simp [dryRun, h]

theorem dryRun_of_captured (h : capture p.reader f.owner f.tokens = .ok initial) :
    (dryRun p f).result = (runFrom p f initial).1 ∧
      (dryRun p f).entries = (runFrom p f initial).2.2 := by
  simp [dryRun, h]

/-- What is handed over at the end: nothing if there is no report. -/
theorem finish_of_reportOn (hlogged : p.isLogged = true) :
    (∀ e, reportOn f initial results last = .error e →
      finish p f initial results last = (.error e, [])) ∧
    ∀ report, reportOn f initial results last = .ok report →
      finish p f initial results last =
        (if (finishEntry report).isWritable then .ok report else .error .tooManyDigits,
          [finishEntry report]) := by
  constructor
  · intro e he
    rw [finish, he]
  · intro report hreport
    rw [finish, hreport]
    simp only [Services.record, if_pos hlogged, handOver_singleton]
    split <;> rfl

/-- The rest of a flow is the call at a place and what comes after it. -/
theorem dryRun_of_stage (hlogged : p.isLogged = true)
    (hbegins : ∀ e ∈ startEntries f, e.isWritable = true) (hcomes : ComesTo p f k results last)
    (hs : f.stages[k]? = some s) (h : runStage p f k last s = (.error e, es)) :
    (dryRun p f).result = .error e ∧
      (dryRun p f).entries = startEntries f ++ (results.flatMap stageEntries ++ es) := by
  obtain ⟨initial, hinitial, hbefore⟩ := hcomes
  obtain ⟨hresult, hentries⟩ := dryRun_of_captured hinitial
  have hstage : runStage p f (0 + k) last s = (.error e, es) := by rwa [Nat.zero_add]
  obtain ⟨hstops, hhanded⟩ := runStages_of_error hlogged hs hbefore hstage
  obtain ⟨hstretch, hall⟩ := (runFrom_of_record hlogged hbegins initial).1 e hstops
  rw [hresult, hentries, hstretch, hall, hhanded]
  exact ⟨rfl, rfl⟩

/-- A stage that a run comes to fails in its call, or because the journal cannot take its result. -/
theorem ComesTo.cases_of_runStage (h : ComesTo p f k results last) (hlogged : p.isLogged = true)
    (hf : f.Writable) (hp : p.GivesReadable) (hs : f.stages[k]? = some s)
    (hstage : (runStage p f k last s).1 = .error e) :
    FailsAt p f k e ∨ (e = .tooManyDigits ∧ ∃ r, UnwrittenAt p f k r) := by
  cases hcall : p.call f k last s with
  | error e' =>
    rw [runStage_of_error hcall] at hstage
    cases hstage
    exact .inl ⟨results, last, s, h, hs, hcall⟩
  | ok called =>
    obtain ⟨r, after⟩ := called
    have hlabel := h.isReadable_label hf hp hs hcall
    rw [runStage_of_ok hlogged hlabel.writable hcall] at hstage
    by_cases hrow : r.toJson.isWritable = true
    · rw [if_pos hrow] at hstage
      cases hstage
    · rw [if_neg hrow] at hstage
      cases hstage
      exact .inr ⟨rfl, r, results, last, s, after, h, hs, hcall, Bool.eq_false_iff.2 hrow⟩

/-- **A run that returns no report** ends in one of four ways. -/
theorem cases_of_error (hlogged : p.isLogged = true) (hf : f.Writable) (hp : p.GivesReadable)
    (h : (dryRun p f).result = .error e) :
    capture p.reader f.owner f.tokens = .error e ∨ (∃ k, FailsAt p f k e) ∨
      (e = .tooManyDigits ∧ ∃ k r, UnwrittenAt p f k r) ∨
      ∃ initial results last, capture p.reader f.owner f.tokens = .ok initial ∧
        (runStages p f 0 ⟨initial.balances, none⟩ f.stages).result = .ok (results, last) ∧
        (finish p f initial results last).1 = .error e := by
  cases hinitial : capture p.reader f.owner f.tokens with
  | error e' =>
    cases (dryRun_of_uncaptured hinitial).1.symm.trans h
    exact .inl rfl
  | ok initial =>
    rw [(dryRun_of_captured hinitial).1] at h
    obtain ⟨hstops, hgoes⟩ := runFrom_of_record hlogged hf.begins initial
    cases hall : (runStages p f 0 ⟨initial.balances, none⟩ f.stages).result with
    | error e' =>
      cases (hstops e' hall).1.symm.trans h
      obtain ⟨k, s, results, last, hs, hbefore, hstage⟩ := exists_of_runStages_eq_error hall
      have hcomes : ComesTo p f k results last := ⟨initial, hinitial, hbefore⟩
      rw [Nat.zero_add] at hstage
      rcases hcomes.cases_of_runStage hlogged hf hp hs hstage with hfails | ⟨rfl, r, hrow⟩
      · exact .inr (.inl ⟨k, hfails⟩)
      · exact .inr (.inr (.inl ⟨rfl, k, r, hrow⟩))
    | ok outcome =>
      obtain ⟨results, last⟩ := outcome
      rw [(hgoes results last hall).1] at h
      exact .inr (.inr (.inr ⟨initial, results, last, rfl, hall, h⟩))

/-! ## Rows -/

/-- Whether a row is that of an event, at some time. -/
def IsRowOf (event : String × Json.Fields) (row : Json) : Prop :=
  ∃ time : Int, row = .obj (("t", .int time) :: ("event", .str event.1) :: event.2)

/-- Whether the events of a journal have the rows of what is told. -/
def TellsEvents (j : Journal) (t : FileTree) (events : List (String × Json.Fields)) : Prop :=
  ∃ rows, HoldsRows t j.eventsFile rows ∧ List.Forall₂ IsRowOf events rows

/-- Whether the files of a journal have the rows of what is told of a run, and a row for each call. -/
structure Tells (f : Flow) (j : Journal) (t : FileTree) (results : List StageResult)
    (more : List (String × Json.Fields)) : Prop where
  events : TellsEvents j t (told f results more)
  steps : HoldsRows t j.stepsFile (results.map StageResult.toJson)

/-- Whether an event has a row of its own: no field takes the place of another, and the values can be
read back. -/
structure IsPlain (event : String × Json.Fields) : Prop where
  keys : HasOwnKeys event.2
  values : ∀ f ∈ event.2, f.2.IsReadable

/-- Whether what is told of a run can be written and read back. -/
structure IsTellable (f : Flow) (results : List StageResult) (more : List (String × Json.Fields)) :
    Prop where
  flow : f.Writable
  results : ∀ r ∈ results, r.label.IsReadable ∧ r.toJson.IsReadable
  more : ∀ event ∈ more, IsPlain event

variable {event : String × Json.Fields} {more : List (String × Json.Fields)} {time : Int}

/-- An event that can be written can be read back if its values are well-formed. -/
theorem isPlain_of_isWritable (hkeys : HasOwnKeys event.2) (hvalues : ∀ f ∈ event.2, f.2.WellFormed)
    (h : (entryOf event).isWritable = true) : IsPlain event where
  keys := hkeys
  values f hf := ⟨hvalues f hf, (isWritable_entryOf_iff hkeys).1 h f hf⟩

/-- The first event is written if the names and texts of the flow are. -/
theorem isPlain_startedEvent (hf : f.Writable) : IsPlain (startedEvent f) := by
  have hmem : entryOf (startedEvent f) ∈ startEntries f := List.mem_cons_of_mem _ List.mem_cons_self
  refine isPlain_of_isWritable (hasOwnKeys_startedEvent f) ?_ (hf.begins _ hmem)
  simp [startedEvent, hf.name.wellFormed]

/-- The event of a stage is written if its label is. -/
theorem isPlain_stageEvent (h : r.label.IsReadable) : IsPlain (stageEvent r) := by
  refine isPlain_of_isWritable (hasOwnKeys_stageEvent r) ?_ (isWritable_stageEvent h.writable)
  simp [stageEvent, h.wellFormed]

/-- The last event is written if the report is. -/
theorem isPlain_finishedEvent (hname : report.flow.name.IsReadable)
    (h : (finishEntry report).isWritable = true) : IsPlain (finishedEvent report) := by
  refine isPlain_of_isWritable (hasOwnKeys_finishedEvent report) ?_ h
  simp [finishedEvent, hname.wellFormed]

/-- The row of such an event says what the event says. -/
theorem IsPlain.isRowOf (h : IsPlain event) (time : Int) :
    IsRowOf event (eventRow time (.str event.1) event.2) :=
  ⟨time, eventRow_eq h.keys time _⟩

/-- The row of a plain event at a time that has a text. -/
theorem IsPlain.isReadable (h : IsPlain event) (ht : hasText time = true) :
    (eventRow time (.str event.1) event.2).IsReadable := by
  rw [eventRow_eq h.keys, Json.isReadable_obj_iff]
  have htime : (Json.int time).IsReadable := Json.isReadable_int_iff.2 ht
  have hname : (Json.str event.1).IsReadable := Json.isReadable_str _
  exact ⟨h.keys, List.forall_mem_cons.2 ⟨htime, List.forall_mem_cons.2 ⟨hname, h.values⟩⟩⟩

namespace IsTellable

variable {j : Journal} {t : FileTree} {written : List (Int × Entry)}

/-- Every event that is told is one that can be written. -/
theorem isPlain (h : IsTellable f results more) (hevent : event ∈ told f results more) :
    IsPlain event := by
  rw [told, List.cons_append, List.mem_cons, List.mem_append, List.mem_map] at hevent
  obtain rfl | ⟨r, hr, rfl⟩ | hmore := hevent
  · exact isPlain_startedEvent h.flow
  · exact isPlain_stageEvent (h.results r hr).1
  · exact h.more event hmore

/-- All that is handed over can be written. -/
theorem isWritable (h : IsTellable f results more) {e : Entry} (he : e ∈ handed f results more) :
    e.isWritable = true := by
  rw [handed, List.mem_append, List.mem_append, List.mem_flatMap, List.mem_map] at he
  obtain (he | ⟨r, hr, he⟩) | ⟨event, hevent, rfl⟩ := he
  · exact h.flow.begins e he
  · obtain ⟨hlabel, hrow⟩ := h.results r hr
    have hstage : stageEntries r = [entryOf (stageEvent r), .step r.toJson] := rfl
    rw [hstage, List.mem_cons, List.mem_singleton] at he
    obtain rfl | rfl := he
    · exact isWritable_stageEvent hlabel.writable
    · exact hrow.writable
  · obtain ⟨hkeys, hvalues⟩ := h.more event hevent
    exact (isWritable_entryOf_iff hkeys).2 fun f hf => (hvalues f hf).writable

/-- The rows of what is handed over are those of what is told and of the calls, and they can be read
back. -/
theorem rows (h : IsTellable f results more) (htimes : ∀ e ∈ written, hasText e.1 = true)
    (hes : written.map Prod.snd = handed f results more) :
    List.Forall₂ IsRowOf (told f results more) (Journal.eventRows written) ∧
      (∀ row ∈ Journal.eventRows written, row.IsReadable) ∧
      Journal.stepRows written = results.map StageResult.toJson ∧
      ∀ row ∈ Journal.stepRows written, row.IsReadable := by
  have hrows := Journal.forall₂_eventRows htimes
  rw [hes, events_of_handed, List.forall₂_map_left_iff] at hrows
  have hpairs := (List.forall₂_and_left _ _).2 ⟨fun event => h.isPlain, hrows⟩
  have hsteps : Journal.stepRows written = results.map StageResult.toJson := by
    rw [Journal.stepRows, hes, steps_of_handed]
  have hreadable : List.Forall₂ (fun row event => row.IsReadable ∧ IsPlain event)
      (Journal.eventRows written) (told f results more) := by
    refine hpairs.flip.imp ?_
    rintro row event ⟨hplain, time, ht, rfl⟩
    exact ⟨hplain.isReadable ht, hplain⟩
  refine ⟨hpairs.imp ?_, ((List.forall₂_and_left _ _).1 hreadable).1, hsteps, ?_⟩
  · rintro event row ⟨hplain, time, -, rfl⟩
    exact hplain.isRowOf time
  · rw [hsteps]
    exact List.forall_mem_map.2 fun r hr => (h.results r hr).2

/-- What is handed over fills a journal that was just opened. -/
theorem filled (h : IsTellable f results more) (hfresh : j.IsFresh t)
    (htimes : ∀ e ∈ written, hasText e.1 = true)
    (hes : written.map Prod.snd = handed f results more) :
    ∃ d t', j.writeEach written t = (.ok (), t') ∧ Journal.Filled j d written t' := by
  refine hfresh.writeEach fun e he => ?_
  have hmem : e.2 ∈ handed f results more := hes ▸ List.mem_map_of_mem he
  rw [isWritable_toJson_handed hmem (fun event hevent => (h.more event hevent).keys) (htimes e he)]
  exact h.isWritable hmem

/-- **A journal that was just opened tells what was handed over.** -/
theorem tells (h : IsTellable f results more) (hfresh : j.IsFresh t)
    (htimes : ∀ e ∈ written, hasText e.1 = true)
    (hes : written.map Prod.snd = handed f results more) :
    ∃ t', j.writeEach written t = (.ok (), t') ∧ Tells f j t' results more := by
  obtain ⟨d, t', hwritten, hfilled⟩ := h.filled hfresh htimes hes
  obtain ⟨hof, hevents, hsteps, hreadable⟩ := h.rows htimes hes
  obtain ⟨hholds, hholdsSteps⟩ := hfilled.holdsRows hevents hreadable
  exact ⟨t', hwritten, ⟨_, hholds, hof⟩, hsteps ▸ hholdsSteps⟩

/-- A result that cannot be written, as the last entry, leaves the journal with what was told before. -/
theorem tells_unwritten_step (h : IsTellable f results more) (hfresh : j.IsFresh t)
    (htimes : ∀ e ∈ written, hasText e.1 = true)
    (hes : written.map Prod.snd = handed f results more) (time : Int) {row : Json}
    (hrow : row.isWritable = false) :
    ∃ t', j.writeEach (written ++ [(time, .step row)]) t = (.error .tooManyDigits, t') ∧
      TellsEvents j t' (told f results more) ∧
      HoldsLines t' j.stepsFile (results.map StageResult.toJson) := by
  obtain ⟨d, mid, hwritten, hfilled⟩ := h.filled hfresh htimes hes
  obtain ⟨hof, hevents, hsteps, hreadable⟩ := h.rows htimes hes
  obtain ⟨t', ht', hholds, hlines⟩ := hfilled.write_unwritable_step hevents hreadable time hrow
  refine ⟨t', ?_, ⟨_, hholds, hof⟩, hsteps ▸ hlines⟩
  rw [Journal.writeEach_append hwritten, Journal.writeEach, ht']

/-- An event that cannot be written, as the last entry, leaves the journal as it was. -/
theorem tells_unwritten_event (h : IsTellable f results more) (hfresh : j.IsFresh t)
    (htimes : ∀ e ∈ written, hasText e.1 = true)
    (hes : written.map Prod.snd = handed f results more) {time : Int} (ht : hasText time = true)
    (hkeys : HasOwnKeys event.2) (hevent : (entryOf event).isWritable = false) :
    ∃ t', j.writeEach (written ++ [(time, entryOf event)]) t = (.error .tooManyDigits, t') ∧
      Tells f j t' results more := by
  obtain ⟨d, mid, hwritten, hfilled⟩ := h.filled hfresh htimes hes
  obtain ⟨hof, hevents, hsteps, hreadable⟩ := h.rows htimes hes
  have hrow : (eventRow time (.str event.1) event.2).isWritable = false := by
    have hsame := isWritable_toJson_entryOf hkeys ht
    rw [hevent] at hsame
    exact hsame
  have hne : Journal.eventRows written ≠ [] := by
    intro hnil
    rw [hnil] at hof
    cases hof
  obtain ⟨t', ht', hholds, hholdsSteps⟩ :=
    hfilled.write_unwritable_event hne hevents hreadable hrow
  refine ⟨t', ?_, ⟨_, hholds, hof⟩, hsteps ▸ hholdsSteps⟩
  rw [Journal.writeEach_append hwritten, Journal.writeEach, entryOf, ht']

end IsTellable

/-! ## What is recorded of a run -/

/-- Whether these are the results of the first calls of a run, which all went through. -/
def FirstCalls (p : Services) (f : Flow) (k : Nat) (results : List StageResult) : Prop :=
  results.length = k ∧ ∃ initial last, capture p.reader f.owner f.tokens = .ok initial ∧
    SimulatesAll p f 0 ⟨initial.balances, none⟩ (f.stages.take k) results last

/-- What a journal has recorded of a run. If there is a report, it tells of all calls and of the
report; if the run stops at a call, of those before it; if the journal cannot take a result, of the
calls before it and of the event. A run that raises an error stops in one of these ways, or before the
first call, or after the last. -/
structure Recorded (p : Services) (f : Flow) (j : Journal) (t : FileTree) : Prop where
  returned : ∀ report, (dryRun p f).result = .ok report →
    FirstCalls p f f.stages.length report.results ∧
      Tells f j t report.results [finishedEvent report]
  stopped : ∀ k e, FailsAt p f k e → (dryRun p f).result = .error e ∧
    ∃ results, FirstCalls p f k results ∧ Tells f j t results []
  unwritten : ∀ k r, UnwrittenAt p f k r → (dryRun p f).result = .error .tooManyDigits ∧
    ∃ results, FirstCalls p f k results ∧ TellsEvents j t (told f results [stageEvent r]) ∧
      HoldsLines t j.stepsFile (results.map StageResult.toJson)
  raised : ∀ e, (dryRun p f).result = .error e →
    (capture p.reader f.owner f.tokens = .error e ∧
      HoldsRows t j.eventsFile [] ∧ HoldsRows t j.stepsFile []) ∨
    (∃ k, FailsAt p f k e) ∨ (e = .tooManyDigits ∧ ∃ k r, UnwrittenAt p f k r) ∨
    ∃ initial results last, capture p.reader f.owner f.tokens = .ok initial ∧
      SimulatesAll p f 0 ⟨initial.balances, none⟩ f.stages results last ∧
      (finish p f initial results last).1 = .error e ∧ Tells f j t results []

section

variable {j : Journal} {t : FileTree} {written : List (Int × Entry)}

/-- A run that comes to a stage has made the calls of the stages before it. -/
theorem FirstCalls.of_comesTo (hk : k ≤ f.stages.length) (h : ComesTo p f k results last) :
    FirstCalls p f k results := by
  obtain ⟨initial, hinitial, hbefore⟩ := h
  have hcalls := simulatesAll_of_runStages (List.take_prefix k f.stages) hbefore
  refine ⟨?_, initial, last, hinitial, hcalls⟩
  rw [hcalls.length_results, List.length_take, Nat.min_eq_left hk]

/-- A run that works out comes to its end. -/
theorem ComesTo.all (hinitial : capture p.reader f.owner f.tokens = .ok initial)
    (hall : (runStages p f 0 ⟨initial.balances, none⟩ f.stages).result = .ok (results, last)) :
    ComesTo p f f.stages.length results last :=
  ⟨initial, hinitial, by rwa [List.take_length]⟩

/-- What a run comes to can be told. -/
theorem ComesTo.isTellable (h : ComesTo p f k results last) (hlogged : p.isLogged = true)
    (hf : f.Writable) (hp : p.GivesReadable) (hmore : ∀ event ∈ more, IsPlain event) :
    IsTellable f results more := by
  obtain ⟨hresults, -⟩ := h.wellFormed hf hp
  obtain ⟨initial, -, hbefore⟩ := h
  have hwritable := isWritable_of_runStages hlogged hbefore
  exact ⟨hf, fun r hr => ⟨(hresults r hr).label, (hresults r hr).toJson, hwritable r hr⟩, hmore⟩

/-- A journal that was just opened, and what a run hands over to it at times that have a text. -/
structure Kept (p : Services) (f : Flow) (j : Journal) (t : FileTree) (written : List (Int × Entry)) :
    Prop where
  logged : p.isLogged = true
  fresh : j.IsFresh t
  times : ∀ e ∈ written, hasText e.1 = true
  entries : written.map Prod.snd = (dryRun p f).entries

namespace Kept

/-- If one more entry is handed over than is told, it is the last one that is tried. -/
theorem exists_last (h : Kept p f j t written) {more : List (String × Json.Fields)} {entry : Entry}
    (hhanded : (dryRun p f).entries = handed f results more ++ [entry]) :
    ∃ told time, written = told ++ [(time, entry)] ∧ told.map Prod.snd = handed f results more ∧
      (∀ e ∈ told, hasText e.1 = true) ∧ hasText time = true := by
  have hentries := h.entries
  rw [hhanded] at hentries
  obtain ⟨told, final, hwritten, htold, hfinal⟩ := List.map_eq_append_iff.1 hentries
  obtain ⟨⟨time, last⟩, rfl, rfl⟩ := List.map_eq_singleton_iff.1 hfinal
  have htimes := h.times
  rw [hwritten] at htimes
  obtain ⟨hbefore, htime⟩ := List.forall_mem_append.1 htimes
  exact ⟨told, time, hwritten, htold, hbefore, htime _ (List.mem_singleton_self _)⟩

/-- Without a snapshot nothing is written. -/
theorem uncaptured (h : Kept p f j t written) (hinitial : capture p.reader f.owner f.tokens = .error e) :
    (j.writeEach written t).1 = .ok () ∧ HoldsRows (j.writeEach written t).2 j.eventsFile [] ∧
      HoldsRows (j.writeEach written t).2 j.stepsFile [] := by
  have hentries := h.entries
  rw [(dryRun_of_uncaptured hinitial).2, List.map_eq_nil_iff] at hentries
  subst hentries
  obtain ⟨d, hfilled⟩ := h.fresh.filled
  exact ⟨rfl, hfilled.holdsRows (List.forall_mem_nil _) (List.forall_mem_nil _)⟩

/-- A run with a report writes all that it has to tell. -/
theorem returned (h : Kept p f j t written) (hf : f.Writable) (hp : p.GivesReadable)
    (hreport : (dryRun p f).result = .ok report) :
    (j.writeEach written t).1 = .ok () ∧ FirstCalls p f f.stages.length report.results ∧
      Tells f j (j.writeEach written t).2 report.results [finishedEvent report] := by
  obtain ⟨initial, results, last, hinitial, -, hall, hfinish⟩ := dryRun_eq_ok_iff.1 hreport
  obtain ⟨hmade, hrecord⟩ := finish_eq_ok_iff.1 hfinish
  obtain ⟨-, hend⟩ := record_eq_of_ok h.logged hrecord
  have hwritable : (finishEntry report).isWritable = true := hend _ (List.mem_singleton_self _)
  have hcomes := ComesTo.all hinitial hall
  have hentries : written.map Prod.snd = handed f results [finishedEvent report] := by
    rw [h.entries, (dryRun_of_captured hinitial).2,
      ((runFrom_of_record h.logged hf.begins initial).2 results last hall).2,
      (finish_of_reportOn h.logged).2 report hmade]
    rfl
  obtain ⟨deltas, -, errors, -, -, rfl⟩ := reportOn_eq_ok_iff.1 hmade
  have hplain := List.forall_mem_singleton.2 (isPlain_finishedEvent hf.name hwritable)
  obtain ⟨t', hwritten, htells⟩ :=
    (hcomes.isTellable h.logged hf hp hplain).tells h.fresh h.times hentries
  rw [hwritten]
  exact ⟨rfl, .of_comesTo (Nat.le_refl _) hcomes, htells⟩

/-- A run that stops at a call writes what went before it. -/
theorem stopped (h : Kept p f j t written) (hf : f.Writable) (hp : p.GivesReadable)
    (hfails : FailsAt p f k e) :
    (j.writeEach written t).1 = .ok () ∧ (dryRun p f).result = .error e ∧
      ∃ results, FirstCalls p f k results ∧ Tells f j (j.writeEach written t).2 results [] := by
  obtain ⟨results, last, s, hcomes, hs, hcall⟩ := hfails
  have hk : k ≤ f.stages.length := Nat.le_of_lt (List.getElem?_eq_some_iff.1 hs).1
  obtain ⟨hresult, hentries⟩ :=
    dryRun_of_stage h.logged hf.begins hcomes hs (runStage_of_error hcall)
  have hhanded : written.map Prod.snd = handed f results [] := by
    rw [h.entries, hentries, handed, List.append_assoc]
    rfl
  obtain ⟨t', hwritten, htells⟩ :=
    (hcomes.isTellable h.logged hf hp (List.forall_mem_nil _)).tells h.fresh h.times hhanded
  rw [hwritten]
  exact ⟨rfl, hresult, results, .of_comesTo hk hcomes, htells⟩

/-- A result that cannot be written has its event written before it. -/
theorem unwritten (h : Kept p f j t written) (hf : f.Writable) (hp : p.GivesReadable)
    (hrow : UnwrittenAt p f k r) :
    (j.writeEach written t).1 = .error .tooManyDigits ∧
      (dryRun p f).result = .error .tooManyDigits ∧
      ∃ results, FirstCalls p f k results ∧
        TellsEvents j (j.writeEach written t).2 (told f results [stageEvent r]) ∧
        HoldsLines (j.writeEach written t).2 j.stepsFile (results.map StageResult.toJson) := by
  obtain ⟨results, last, s, after, hcomes, hs, hcall, hrow⟩ := hrow
  have hk : k ≤ f.stages.length := Nat.le_of_lt (List.getElem?_eq_some_iff.1 hs).1
  have hlabel := hcomes.isReadable_label hf hp hs hcall
  have hstage := runStage_of_ok h.logged hlabel.writable hcall
  rw [hrow, if_neg Bool.false_ne_true] at hstage
  obtain ⟨hresult, hentries⟩ := dryRun_of_stage h.logged hf.begins hcomes hs hstage
  -- the event is told and the row is the last thing that is tried
  have hhanded : (dryRun p f).entries = handed f results [stageEvent r] ++ [.step r.toJson] := by
    rw [hentries, handed]
    simp [stageEntries, entryOf, stageEvent]
  obtain ⟨told, time, rfl, htold, htimes, -⟩ := h.exists_last hhanded
  have hplain := List.forall_mem_singleton.2 (isPlain_stageEvent hlabel)
  obtain ⟨t', hwritten, hevents, hlines⟩ :=
    (hcomes.isTellable h.logged hf hp hplain).tells_unwritten_step h.fresh htimes htold time hrow
  rw [hwritten]
  exact ⟨rfl, hresult, results, .of_comesTo hk hcomes, hevents, hlines⟩

/-- A run that cannot be finished has written all of its calls. -/
theorem unfinished (h : Kept p f j t written) (hf : f.Writable) (hp : p.GivesReadable)
    (hinitial : capture p.reader f.owner f.tokens = .ok initial)
    (hall : (runStages p f 0 ⟨initial.balances, none⟩ f.stages).result = .ok (results, last))
    (hfinish : (finish p f initial results last).1 = .error e) :
    ((j.writeEach written t).1 = .ok () ∨ (j.writeEach written t).1 = .error e) ∧
      Tells f j (j.writeEach written t).2 results [] := by
  have hcomes := ComesTo.all hinitial hall
  have htellable := hcomes.isTellable h.logged hf hp (List.forall_mem_nil _)
  have hentries := (dryRun_of_captured hinitial).2
  rw [((runFrom_of_record h.logged hf.begins initial).2 results last hall).2] at hentries
  -- without a report nothing more is handed over, and otherwise only the last event is refused
  cases hreport : reportOn f initial results last with
  | error e' =>
    rw [(finish_of_reportOn h.logged).1 e' hreport, ← h.entries] at hentries
    obtain ⟨t', hwritten, htells⟩ := htellable.tells h.fresh h.times hentries
    rw [hwritten]
    exact ⟨.inl rfl, htells⟩
  | ok report =>
    have hmade := (finish_of_reportOn h.logged).2 report hreport
    by_cases hwritable : (finishEntry report).isWritable = true
    · rw [hmade, if_pos hwritable] at hfinish
      cases hfinish
    · rw [hmade, if_neg hwritable] at hfinish
      cases hfinish
      have hhanded : (dryRun p f).entries = handed f results [] ++ [finishEntry report] := by
        rw [hentries, hmade, handed, List.map_nil, List.append_nil]
      obtain ⟨told, time, rfl, htold, htimes, htime⟩ := h.exists_last hhanded
      obtain ⟨t', hwritten, htells⟩ := htellable.tells_unwritten_event h.fresh htimes htold htime
        (hasOwnKeys_finishedEvent report) (Bool.eq_false_iff.2 hwritable)
      refine ⟨.inr ?_, ?_⟩
      · exact congrArg Prod.fst hwritten
      · exact (congrArg Prod.snd hwritten).symm ▸ htells

/-- An error of the journal is that of the run. -/
theorem result_of_error (h : Kept p f j t written) (hf : f.Writable) (hp : p.GivesReadable)
    (hfails : (j.writeEach written t).1 = .error e) : (dryRun p f).result = .error e := by
  cases hresult : (dryRun p f).result with
  | ok report =>
    rw [(h.returned hf hp hresult).1] at hfails
    cases hfails
  | error e' =>
    obtain hinitial | ⟨k, hcall⟩ | ⟨rfl, k, r, hrow⟩ |
      ⟨initial, results, last, hinitial, hall, hfinish⟩ := cases_of_error h.logged hf hp hresult
    · rw [(h.uncaptured hinitial).1] at hfails
      cases hfails
    · rw [(h.stopped hf hp hcall).1] at hfails
      cases hfails
    · rw [(h.unwritten hf hp hrow).1] at hfails
      rw [Except.error.inj hfails]
    · obtain hok | herror := (h.unfinished hf hp hinitial hall hfinish).1
      · rw [hok] at hfails
        cases hfails
      · rw [herror] at hfails
        rw [Except.error.inj hfails]

end Kept

end

/-- **A journal that was just opened is a faithful beginning of the run**, also of one that fails. Where
it cannot take an entry, the run fails with it. -/
theorem recorded_of_openIn {base run : String} {j : Journal} {t opened : FileTree}
    {written : List (Int × Entry)} (hlogged : p.isLogged = true) (hf : f.Writable)
    (hp : p.GivesReadable) (ho : Journal.openIn base run t = .ok (j, opened))
    (hmissing : ∀ file ∈ fileNames, opened.isThere (j.root ++ [file]) = .ok false)
    (htimes : ∀ e ∈ written, hasText e.1 = true)
    (hentries : written.map Prod.snd = (dryRun p f).entries) :
    Recorded p f j (j.writeEach written opened).2 ∧
      ∀ e, (j.writeEach written opened).1 = .error e → (dryRun p f).result = .error e := by
  have hfresh : j.IsFresh opened := ⟨(Journal.openIn_eq_ok ho).2.isDirectory, hmissing⟩
  have hkept : Kept p f j opened written := ⟨hlogged, hfresh, htimes, hentries⟩
  refine ⟨⟨fun report h => (hkept.returned hf hp h).2, fun k e h => (hkept.stopped hf hp h).2,
    fun k r h => (hkept.unwritten hf hp h).2, fun e h => ?_⟩, fun e => hkept.result_of_error hf hp⟩
  obtain hinitial | h | h | ⟨initial, results, last, hinitial, hall, hfinish⟩ :=
    cases_of_error hlogged hf hp h
  · exact .inl ⟨hinitial, (hkept.uncaptured hinitial).2⟩
  · exact .inr (.inl h)
  · exact .inr (.inr (.inl h))
  · have hcalls := simulatesAll_of_runStages (List.prefix_refl _) hall
    exact .inr (.inr (.inr ⟨initial, results, last, hinitial, hcalls, hfinish,
      (hkept.unfinished hf hp hinitial hall hfinish).2⟩))

/-! ### Two repayments, and a chain without an answer to the second -/

/-- The chain of the two repayments, with nothing in its second response. -/
def stumbling : Services where
  simulator place _ := .ok (if place = 0 then response 0 else .arr [])
  clock := chain.clock
  reader := chain.reader

theorem writable_repay (label : String) : (repay label).Writable where
  label := Json.isReadable_str label
  description := Json.isReadable_str ""
  expectations := by simp [repay]

theorem writable_repaying : repaying.Writable where
  name := Json.isReadable_str _
  stages := List.forall_mem_cons.2
    ⟨writable_repay _, List.forall_mem_singleton.2 (writable_repay _)⟩
  begins := by decide

theorem isReadable_response (place : Nat) : (response place).IsReadable := by
  cases place <;> simp [response, debtWrite, purseWrite]

theorem givesReadable_chain : chain.GivesReadable := by
  rintro place payload _ ⟨⟩
  exact isReadable_response place

theorem givesReadable_stumbling : stumbling.GivesReadable := by
  rintro place payload _ ⟨⟩
  split
  · exact isReadable_response 0
  · simp

theorem failsAt_stumbling : FailsAt stumbling repaying 1 .emptyResponse := by
  obtain ⟨d, hd⟩ : ∃ d, milliseconds (stumbling.clock 0) (stumbling.clock 1) = .ok d := ⟨_, rfl⟩
  obtain ⟨first, hfirst, -, hlabel, -, -, hwritable⟩ := exists_resultOf_first d
  have hcall : stumbling.call repaying 0 ⟨[("0xc1", 100)], none⟩ (repay "first") = .ok (first, _) :=
    call_eq_ok_iff.2 ⟨response 0, rfl, d, hd, hfirst⟩
  have hstage := runStage_of_isWritable hcall (by rw [hlabel]; rfl) hwritable
  have hbefore : (runStages stumbling repaying 0 ⟨[("0xc1", 100)], none⟩
      (repaying.stages.take 1)).result =
        .ok ([first], ⟨[("0xc1", 70)], some ⟨0, 100, true, "main"⟩⟩) :=
    runStages_cons_eq_ok_iff.2 ⟨first, _, [], hstage, rfl, rfl⟩
  exact ⟨_, _, repay "second", ⟨_, rfl, hbefore⟩, rfl, rfl⟩

/-- The entries of a run, all at the same time. -/
theorem map_snd_map (es : List Entry) : (es.map ((0 : Int), ·)).map Prod.snd = es := by
  rw [List.map_map]
  exact List.map_id es

theorem hasText_of_mem_map {es : List Entry} : ∀ e ∈ es.map ((0 : Int), ·), hasText e.1 = true :=
  List.forall_mem_map.2 fun _ _ => hasText_zero

/-- A directory for the journal of a run. -/
theorem openIn_runs : Journal.openIn "runs" "repay" {} = .ok (⟨["runs", "repay"]⟩,
    ⟨[(["runs"], .directory), (["runs", "repay"], .directory)]⟩) := by rfl

/-- None of the files is there before the first entry. -/
theorem missing_runs : ∀ file ∈ fileNames, FileTree.isThere
    ⟨[(["runs"], .directory), (["runs", "repay"], .directory)]⟩ (["runs", "repay"] ++ [file]) =
      .ok false :=
  List.forall_mem_cons.2 ⟨rfl, List.forall_mem_cons.2 ⟨rfl, List.forall_mem_singleton.2 rfl⟩⟩

/-- The journals of a run that returns and of one that stops at its second call. -/
theorem recorded_of_openIn_repaying : ∃ j opened,
    Journal.openIn "runs" "repay" {} = .ok (j, opened) ∧
      (∃ report, (dryRun chain repaying).result = .ok report) ∧
      Recorded chain repaying j
        (j.writeEach ((dryRun chain repaying).entries.map (0, ·)) opened).2 ∧
      FailsAt stumbling repaying 1 .emptyResponse ∧
      Recorded stumbling repaying j
        (j.writeEach ((dryRun stumbling repaying).entries.map (0, ·)) opened).2 := by
  obtain ⟨report, hreport, -⟩ := exists_report_repaying
  exact ⟨_, _, openIn_runs, ⟨report, hreport⟩,
    (recorded_of_openIn rfl writable_repaying givesReadable_chain openIn_runs missing_runs
      hasText_of_mem_map (map_snd_map _)).1,
    failsAt_stumbling,
    (recorded_of_openIn rfl writable_repaying givesReadable_stumbling openIn_runs missing_runs
      hasText_of_mem_map (map_snd_map _)).1⟩

/-! ### A failure that cannot be diagnosed -/

/-- A chain on which all calls fail with a status. -/
def failing (status : String) : Services where
  simulator _ _ := .ok (.obj [("success", .bool false), ("vm_status", .str status)])
  clock := chain.clock
  reader := chain.reader

/-- The first repayment alone, of which nothing is expected. -/
def unpaid : MovePlan.Flow :=
  { repaying with stages := [{ repay "first" with expectations := [] }], lending := none }

theorem writable_unpaid : unpaid.Writable where
  name := Json.isReadable_str _
  stages := List.forall_mem_singleton.2 ⟨Json.isReadable_str _, Json.isReadable_str _, nofun⟩
  begins := by decide

theorem givesReadable_failing (status : String) : (failing status).GivesReadable := by
  rintro place payload _ ⟨⟩
  simp

/-- The response shows no store. -/
theorem exists_resultOf_failing {status : String} (h : status ≠ "") (duration : Binary64) :
    ∃ r, resultOf unpaid { repay "first" with expectations := [] } ⟨[("0xc1", 100)], none⟩
      (.obj [("success", .bool false), ("vm_status", .str status)]) duration =
        .ok (r, ⟨[("0xc1", 100)], none⟩) ∧
      r.label = .str "first" ∧ r.success = false ∧ r.status = status ∧ r.gasUsed = 0 ∧
      r.toJson.isWritable = true := by
  have hgiven : (Json.str status).given = true := by simpa [Json.given] using h
  obtain ⟨o, ho, hchanges, hevents, hsuccess, hstatus, hgas, gasCost, hcost⟩ :
      ∃ o, Outcome.ofResponse (.obj [("success", .bool false), ("vm_status", .str status)]) = .ok o ∧
        o.changes = [] ∧ o.parsedEvents = [] ∧ o.success = false ∧
        o.status = ((Json.str status).orElse (.str "")).display ∧ o.gasUsed = 0 ∧
        ∃ x, o.gasCost = .ok x :=
    ⟨_, rfl, rfl, rfl, rfl, rfl, rfl, _, rfl⟩
  rw [Json.orElse, if_pos hgiven] at hstatus
  have hshown : extractBalances o unpaid.tokens unpaid.owner = .ok [] :=
    Error.bind_eq_ok_iff.2 ⟨_, expectedStores_repaying, by rw [hchanges, balancesFrom]⟩
  have hdeltas : deltasOf [("0xc1", 100)] [("0xc1", 100)] unpaid.tokens =
      .ok [⟨usdc, 100, 100, 0, "+0.000000"⟩] := rfl
  have htext : hasText o.gasUsed = true := by
    rw [hgas]
    decide
  have hanalysis : analyze o unpaid.tokens unpaid.owner unpaid.position = .ok ⟨o.parsedEvents, [], none⟩ :=
    analyze_of_untracked hshown
  have hverdicts : judgeAll [⟨usdc, 100, 100, 0, "+0.000000"⟩] none none [] = .ok [] := rfl
  refine ⟨_, resultOf_eq_ok_iff.2 ⟨o, ho, _, hanalysis, _, hdeltas, _, hverdicts, gasCost, hcost, htext,
    rfl, rfl⟩, rfl, hsuccess, hstatus, hgas, ?_⟩
  simp only [StageResult.toJson, hevents, hgas]
  rfl

/-- The call of a failure that cannot be diagnosed goes through, but the run cannot be finished. -/
theorem exists_runStages_failing {status : String} (h : status ≠ "") :
    ∃ initial r last, capture (failing status).reader unpaid.owner unpaid.tokens = .ok initial ∧
      (runStages (failing status) unpaid 0 ⟨initial.balances, none⟩ unpaid.stages).result =
        .ok ([r], last) ∧
      ∀ e, Diagnosis.diagnose status (.str "first") = .error e →
        reportOn unpaid initial [r] last = .error e := by
  obtain ⟨d, hd⟩ : ∃ d, milliseconds ((failing status).clock 0) ((failing status).clock 1) = .ok d :=
    ⟨_, rfl⟩
  obtain ⟨r, hr, hlabel, hsuccess, hstatus, -, hwritable⟩ := exists_resultOf_failing h d
  have hcall : (failing status).call unpaid 0 ⟨[("0xc1", 100)], none⟩
      { repay "first" with expectations := [] } = .ok (r, _) := call_eq_ok_iff.2 ⟨_, rfl, d, hd, hr⟩
  have hstage := runStage_of_isWritable hcall (by rw [hlabel]; rfl) hwritable
  have hinitial : capture (failing status).reader unpaid.owner unpaid.tokens =
      .ok ⟨"0xa11ce", [("0xc1", 100)], none⟩ := rfl
  refine ⟨_, r, _, hinitial, runStages_cons_eq_ok_iff.2 ⟨r, _, [], hstage, rfl, rfl⟩, fun e he => ?_⟩
  have herrors : errorsOf [r] = .error e := by
    rw [errorsOf, StageResult.errors, hsuccess, hstatus, hlabel, Diagnosis.diagnoseOutcome,
      if_neg Bool.false_ne_true, he]
    rfl
  have hdeltas : deltasOf [("0xc1", 100)] [("0xc1", 100)] unpaid.tokens =
      .ok [⟨usdc, 100, 100, 0, "+0.000000"⟩] := rfl
  rw [reportOn, diffSince, hdeltas, herrors]
  rfl

/-- A code with one digit more than is read. -/
def longCode : String := String.ofList (List.replicate (digitLimit + 1) '9')

/-- The code of such an abort is a numeral with too many digits. -/
theorem diagnose_longCode (step : Json) :
    Diagnosis.diagnose ("Move abort in 0x1::coin: " ++ longCode) step =
      .error (.numeralTooLong longCode.toList.length) := by
  have hplace : "Move abort in 0x1::coin: " = "Move abort in " ++ "0x1" ++ "::" ++ "coin" ++ ": " := by
    decide
  have haddress : Diagnosis.IsAddressText "0x1".toList := ⟨by decide, by simp; decide, by decide⟩
  have hmodule : Move.IsName "coin".toList := .cons (by decide) (by simp; decide)
  have hdigits : ∀ c ∈ longCode.toList, c.isDigit = true := by
    intro c hc
    rw [longCode, String.toList_ofList] at hc
    rw [List.eq_of_mem_replicate hc]
    rfl
  have hlong : digitLimit < longCode.toList.length := by
    rw [longCode, String.toList_ofList, List.length_replicate]
    exact Nat.lt_succ_self _
  rw [hplace]
  exact Diagnosis.diagnose_eq_error_iff.2
    (Diagnosis.parseAbort_of_long_code haddress hmodule hdigits hlong)

/-- A failure that cannot be diagnosed is raised after its call was told of: the only response is to
the first call, and the journal has a row for it. -/
theorem tells_of_undiagnosed : ∃ status j opened r,
    status = "Move abort in 0x1::coin: " ++ longCode ∧
      Journal.openIn "runs" "repay" {} = .ok (j, opened) ∧
      (dryRun (failing status) unpaid).result = .error (.numeralTooLong longCode.toList.length) ∧
      Tells unpaid j
        (j.writeEach ((dryRun (failing status) unpaid).entries.map (0, ·)) opened).2 [r] [] := by
  -- the status goes by a name, so that no step below unfolds its digits
  obtain ⟨status, hstatus⟩ : ∃ status, status = "Move abort in 0x1::coin: " ++ longCode := ⟨_, rfl⟩
  have hne : status ≠ "" := by
    rw [hstatus]
    simp
  have hdiagnose := diagnose_longCode (.str "first")
  rw [← hstatus] at hdiagnose
  obtain ⟨initial, r, last, hinitial, hall, hreport⟩ := exists_runStages_failing hne
  have hlogged : (failing status).isLogged = true := rfl
  have hfinish := congrArg Prod.fst ((finish_of_reportOn hlogged).1 _ (hreport _ hdiagnose))
  have hresult := (runFrom_of_record hlogged writable_unpaid.begins initial).2 _ _ hall
  have hfresh : Journal.IsFresh ⟨["runs", "repay"]⟩
      ⟨[(["runs"], .directory), (["runs", "repay"], .directory)]⟩ :=
    ⟨(Journal.openIn_eq_ok openIn_runs).2.isDirectory, missing_runs⟩
  have hkept : Kept (failing status) unpaid _ _ ((dryRun (failing status) unpaid).entries.map (0, ·)) :=
    ⟨hlogged, hfresh, hasText_of_mem_map, map_snd_map _⟩
  obtain ⟨-, htells⟩ :=
    hkept.unfinished writable_unpaid (givesReadable_failing status) hinitial hall hfinish
  refine ⟨status, _, _, r, hstatus, openIn_runs, ?_, htells⟩
  rw [(dryRun_of_captured hinitial).1, hresult.1, hfinish]

end MovePlan.Flow
