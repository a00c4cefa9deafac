import MovePlan.Flow.DryRun
import MovePlan.Proofs.Json.WellFormed

/-!
# What a run tells its journal

Of the start of a flow, of each call and of a report one event is told, and of each call its result.
These events have keys of their own, so that their rows are written as they are told (`eventRow_eq`).

A journal takes entries as long as none has an integer with too many digits (`handOver_eq_ok_iff`). Of a
call whose label can be written that can only be the result (`handOver_stageEntries`).
-/

namespace MovePlan.Flow

open Numeric

/-! ## Events -/

/-- What is told of a flow when its run starts: the event's name and its fields. -/
def startedEvent (f : Flow) : String × Json.Fields :=
  ("dry_run_started", [("plan", f.name), ("owner", .str f.owner), ("steps", .nat f.stages.length)])

/-- What is told of a call. -/
def stageEvent (r : StageResult) : String × Json.Fields :=
  ("step_simulated", [("label", r.label), ("success", .bool r.success), ("vm_status", .str r.status)])

/-- What is told of a report. -/
def finishedEvent (r : Report) : String × Json.Fields :=
  ("dry_run_finished", [("plan", r.flow.name), ("success", .bool r.success),
    ("errors", .nat r.errors.length), ("warnings", .nat r.warnings.length),
    ("total_gas_used", .int r.gasUsed)])

/-- What is told, in order: of the start of a flow, of each call, and what comes after that. -/
def told (f : Flow) (results : List StageResult) (more : List (String × Json.Fields)) :
    List (String × Json.Fields) :=
  startedEvent f :: results.map stageEvent ++ more

/-- An event as it is handed over. -/
def entryOf (event : String × Json.Fields) : Entry := .event (.str event.1) event.2

/-- What is handed over, in order: the start of a flow, each call with its result, and further
events. -/
def handed (f : Flow) (results : List StageResult) (more : List (String × Json.Fields)) : List Entry :=
  startEntries f ++ results.flatMap stageEntries ++ more.map entryOf

/-- Whether no field takes the place of another, or of the time or the name of an event. -/
def HasOwnKeys (fields : Json.Fields) : Prop := ("t" :: "event" :: fields.map Prod.fst).Nodup

variable {p : Services} {f : Flow} {r : StageResult} {results : List StageResult}
  {more : List (String × Json.Fields)} {event : String × Json.Fields} {fields : Json.Fields} {time : Int}

/-- The first event never uses the keys that every row has. -/
theorem hasOwnKeys_startedEvent (f : Flow) : HasOwnKeys (startedEvent f).2 := by
  simp [HasOwnKeys, startedEvent]

/-- The event of a stage never uses them. -/
theorem hasOwnKeys_stageEvent (r : StageResult) : HasOwnKeys (stageEvent r).2 := by
  simp [HasOwnKeys, stageEvent]

/-- The last event leaves them alone too. -/
theorem hasOwnKeys_finishedEvent (r : Report) : HasOwnKeys (finishedEvent r).2 := by
  simp [HasOwnKeys, finishedEvent]

/-- The row of an event: the time, the name, and the fields as they are. -/
theorem eventRow_eq (h : HasOwnKeys fields) (time : Int) (name : Json) :
    eventRow time name fields = .obj (("t", .int time) :: ("event", name) :: fields) := by
  have hkeys : (([("t", Json.int time), ("event", name)] ++ fields).map Prod.fst).Nodup := h
  rw [eventRow, Json.ofFields_eq_self hkeys]
  rfl

/-! ## Entries that a journal can take -/

/-- The row of an event can be written at any time that has a text if the fields can. -/
theorem isWritable_eventRow_iff (h : HasOwnKeys event.2) (ht : hasText time = true) :
    (eventRow time (.str event.1) event.2).isWritable = true ↔
      ∀ f ∈ event.2, f.2.isWritable = true := by
  rw [eventRow_eq h]
  simp [ht]

/-- The entry of an event can be written if its fields can. -/
theorem isWritable_entryOf_iff (h : HasOwnKeys event.2) :
    (entryOf event).isWritable = true ↔ ∀ f ∈ event.2, f.2.isWritable = true :=
  isWritable_eventRow_iff h hasText_zero

/-- The time of an entry does not matter. -/
theorem isWritable_toJson_entryOf (h : HasOwnKeys event.2) (ht : hasText time = true) :
    ((entryOf event).toJson time).isWritable = (entryOf event).isWritable := by
  rw [Bool.eq_iff_iff, isWritable_entryOf_iff h]
  exact isWritable_eventRow_iff h ht

/-- The time and the kind of an entry never stand in the way of writing it. -/
theorem isWritable_toJson_handed {e : Entry} (h : e ∈ handed f results more)
    (hmore : ∀ event ∈ more, HasOwnKeys event.2) (ht : hasText time = true) :
    (e.toJson time).isWritable = e.isWritable := by
  rw [handed, List.mem_append, List.mem_append, List.mem_flatMap, List.mem_map] at h
  obtain (h | ⟨r, -, h⟩) | ⟨event, hevent, rfl⟩ := h
  · have hstart : startEntries f = [.description f.toJson, entryOf (startedEvent f)] := rfl
    rw [hstart, List.mem_cons, List.mem_singleton] at h
    obtain rfl | rfl := h
    · rfl
    · exact isWritable_toJson_entryOf (hasOwnKeys_startedEvent f) ht
  · have hstage : stageEntries r = [entryOf (stageEvent r), .step r.toJson] := rfl
    rw [hstage, List.mem_cons, List.mem_singleton] at h
    obtain rfl | rfl := h
    · exact isWritable_toJson_entryOf (hasOwnKeys_stageEvent r) ht
    · rfl
  · exact isWritable_toJson_entryOf (hmore event hevent) ht

variable {es : List Entry}

/-- Entries that can be written are all taken. -/
theorem handOver_of_writable (h : ∀ e ∈ es, e.isWritable = true) : handOver es = (es, .ok ()) := by
  induction es with
  | nil => rfl
  | cons e rest ih =>
    obtain ⟨he, hrest⟩ := List.forall_mem_cons.1 h
    rw [handOver, if_pos he, ih hrest]

/-- All entries are handed over exactly if each of them can be written. -/
theorem handOver_eq_ok_iff : (handOver es).2 = .ok () ↔ ∀ e ∈ es, e.isWritable = true := by
  refine ⟨fun h => ?_, fun h => by rw [handOver_of_writable h]⟩
  induction es with
  | nil => exact List.forall_mem_nil _
  | cons e rest ih =>
    rw [handOver] at h
    split at h
    · next he => exact List.forall_mem_cons.2 ⟨he, ih h⟩
    · cases h

/-- Such entries are recorded without a fault. -/
theorem record_of_writable (h : ∀ e ∈ es, e.isWritable = true) : (p.record es).2 = .ok () := by
  rw [Services.record]
  split
  · rw [handOver_of_writable h]
  · rfl

/-- One entry at the end is tried in any case. -/
theorem handOver_singleton (e : Entry) :
    handOver [e] = ([e], if e.isWritable then .ok () else .error .tooManyDigits) := by
  rw [handOver]
  split <;> rfl

/-- The event of a call can be written if its label can. -/
theorem isWritable_stageEvent (h : r.label.isWritable = true) :
    (entryOf (stageEvent r)).isWritable = true :=
  (isWritable_entryOf_iff (hasOwnKeys_stageEvent r)).2 (by simp [stageEvent, h])

/-- Of a call whose label can be written the event is taken, and the result is tried. -/
theorem handOver_stageEntries (h : r.label.isWritable = true) :
    handOver (stageEntries r) =
      (stageEntries r, if r.toJson.isWritable then .ok () else .error .tooManyDigits) := by
  have hentries : stageEntries r = [entryOf (stageEvent r), .step r.toJson] := rfl
  rw [hentries, handOver, if_pos (isWritable_stageEvent h), handOver_singleton]
  rfl

/-- What a journal can take is all handed to it. -/
theorem record_eq_of_ok (hlogged : p.isLogged = true) (h : (p.record es).2 = .ok ()) :
    p.record es = (es, .ok ()) ∧ ∀ e ∈ es, e.isWritable = true := by
  rw [Services.record, if_pos hlogged] at h ⊢
  have hes := handOver_eq_ok_iff.1 h
  exact ⟨handOver_of_writable hes, hes⟩

theorem record_stageEntries (hlabel : r.label.isWritable = true) (h : r.toJson.isWritable = true) :
    (p.record (stageEntries r)).2 = .ok () := by
  rw [Services.record]
  split
  · rw [handOver_stageEntries hlabel, if_pos h]
  · rfl

/-- What is told at the end can be written if the name of the flow can and the numbers have a text. -/
theorem isWritable_finishEntry {report : Report} (hname : report.flow.name.isWritable = true)
    (herrors : hasText report.errors.length = true)
    (hwarnings : hasText report.warnings.length = true) (hgas : hasText report.gasUsed = true) :
    (finishEntry report).isWritable = true := by
  have hfields : ∀ f ∈ (finishedEvent report).2, f.2.isWritable = true := by
    simp [finishedEvent, Json.nat, hname, herrors, hwarnings, hgas]
  exact (isWritable_entryOf_iff (hasOwnKeys_finishedEvent report)).2 hfields

/-! ## Entries and what is told -/

/-- The name and the fields of an event. -/
def Entry.event? : Entry → Option (Json × Json.Fields)
  | .event name fields => some (name, fields)
  | _ => none

/-- The row of a step. -/
def Entry.step? : Entry → Option Json
  | .step row => some row
  | _ => none

/-- The events that are handed over are those that are told. -/
theorem events_of_handed : (handed f results more).filterMap Entry.event? =
    (told f results more).map fun event => (.str event.1, event.2) := by
  have hstages : (results.flatMap stageEntries).filterMap Entry.event? =
      (results.map stageEvent).map fun event => (.str event.1, event.2) := by
    rw [List.filterMap_flatMap, List.map_map, List.map_eq_flatMap]
    rfl
  have hmore : (more.map entryOf).filterMap Entry.event? =
      more.map fun event => (.str event.1, event.2) := by
    rw [List.filterMap_map, ← List.filterMap_eq_map]
    rfl
  rw [handed, List.filterMap_append, List.filterMap_append, hstages, hmore, told, List.map_append]
  rfl

/-- The rows of steps that are handed over are the results of the calls. -/
theorem steps_of_handed : (handed f results more).filterMap Entry.step? =
    results.map StageResult.toJson := by
  have hstages : (results.flatMap stageEntries).filterMap Entry.step? =
      results.map StageResult.toJson := by
    rw [List.filterMap_flatMap, List.map_eq_flatMap]
    rfl
  have hstart : (startEntries f).filterMap Entry.step? = [] := rfl
  have hmore : (more.map entryOf).filterMap Entry.step? = [] := by
    rw [List.filterMap_map, List.filterMap_eq_nil_iff]
    exact fun _ _ => rfl
  rw [handed, List.filterMap_append, List.filterMap_append, hstages, hstart, hmore, List.nil_append,
    List.append_nil]

end MovePlan.Flow
