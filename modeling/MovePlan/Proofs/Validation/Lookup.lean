import MovePlan.Proofs.Abi.Lookup
import MovePlan.Proofs.Graph.Listing
import MovePlan.Validation.Validator

/-!
# What validation learns of the functions

Each function of a graph is looked up once, in the order of first use. What it is answered is settled
by the source, which may have a state, and by the cache, at the moment of its turn (`answerFor`). When
the source fails only to fetch, each answer becomes what is known of the function (`Tells`), so that
validation comes to a report on what was answered (`exists_validate_eq`).
-/

namespace MovePlan

open Move Graph Abi Error

namespace Validation

variable {σ : Type} {src : Source σ} {d : Desk σ} {ids : List FunctionId} {id : FunctionId}
  {answers : List (FunctionId × Fetched)}

/-! ## One function -/

/-- What an answer tells of a function. -/
inductive Tells : Except Error (Option Signature) → Fetched → Prop where
  | found (sig : Signature) (flags : List (Option Bool)) (h : flags.length = sig.returns.length) :
    Tells (.ok (some sig)) ⟨some (sig.withDroppable flags), none⟩
  | missing : Tells (.ok none) ⟨none, none⟩
  | failed (url reason : String) (status : Option Int) :
    Tells (.error (.abiFetch url reason status)) ⟨none, some (causeOf url reason status)⟩

/-- A lookup gives what the answer tells. -/
theorem exists_fetch_eq_ok (hsrc : src.FailsOnlyToFetch) (id : FunctionId) (d : Desk σ) :
    ∃ f, (fetch src id d).1 = .ok f ∧ Tells (d.function src id).1 f := by
  have hfailed : ∀ e, (d.function src id).1 = .error e →
      ∃ url reason status, e = .abiFetch url reason status :=
    fun _ => Desk.function_eq_error hsrc
  unfold fetch
  generalize d.function src id = out at hfailed ⊢
  obtain ⟨answer, d'⟩ := out
  cases answer with
  | error e =>
    obtain ⟨url, reason, status, rfl⟩ := hfailed e rfl
    exact ⟨_, rfl, .failed url reason status⟩
  | ok found =>
    cases found with
    | none => exact ⟨_, rfl, .missing⟩
    | some sig =>
      obtain ⟨flags, hflags, hlen⟩ := exists_droppableAll_eq_ok hsrc sig.returns d'
      refine ⟨⟨some (sig.withDroppable flags), none⟩, ?_, .found sig flags hlen⟩
      dsimp only
      generalize droppableAll src sig.returns d' = told at hflags ⊢
      obtain ⟨result, d''⟩ := told
      cases hflags
      rfl

theorem functions_fetch (id : FunctionId) (d : Desk σ) :
    (fetch src id d).2.cache.functions = (d.function src id).2.cache.functions := by
  unfold fetch
  generalize d.function src id = out
  obtain ⟨answer, d'⟩ := out
  cases answer with
  | error e => cases e <;> rfl
  | ok found =>
    cases found with
    | none => rfl
    | some sig =>
      have hkeep := functions_droppableAll src sig.returns d'
      dsimp only
      generalize droppableAll src sig.returns d' = told at hkeep ⊢
      obtain ⟨result, d''⟩ := told
      cases result <;> exact hkeep

/-! ## Each function in its turn -/

/-- What is answered for a function of a list, after those before it were looked up. -/
def answerAmong (src : Source σ) (ids : List FunctionId) (d : Desk σ) (id : FunctionId) :
    Except Error (Option Signature) :=
  ((fetchEach src (ids.takeWhile (· ≠ id)) d).2.function src id).1

/-- What is answered for a function of a graph in its turn. -/
def answerFor (src : Source σ) (g : StepGraph) (d : Desk σ) (id : FunctionId) :
    Except Error (Option Signature) := answerAmong src g.functionIds d id

theorem answerAmong_cons_self (rest : List FunctionId) :
    answerAmong src (id :: rest) d id = (d.function src id).1 := by
  simp [answerAmong, fetchEach]

theorem answerAmong_cons_of_ne {first : FunctionId} (rest : List FunctionId) (h : first ≠ id) :
    answerAmong src (first :: rest) d id = answerAmong src rest (fetch src first d).2 id := by
  simp [answerAmong, fetchEach, h]

theorem lookup_fetchEach_of_not_mem (src : Source σ) (d : Desk σ) (h : id ∉ ids) :
    (fetchEach src ids d).2.cache.functions.lookup id.text =
      d.cache.functions.lookup id.text := by
  induction ids generalizing d with
  | nil => rfl
  | cons first rest ih =>
    rw [List.mem_cons, not_or] at h
    rw [fetchEach]
    exact (ih _ h.2).trans (by rw [functions_fetch, Desk.lookup_function_of_ne h.1])

theorem not_mem_takeWhile_ne (ids : List FunctionId) (id : FunctionId) :
    id ∉ ids.takeWhile (· ≠ id) := by
  intro h
  simpa using List.all_eq_true.mp List.all_takeWhile id h

/-- The source answers for any other function, in the state that the lookups before it led to. -/
theorem answerFor_of_not_cached {g : StepGraph} (h : d.cache.functions.lookup id.text = none) :
    answerFor src g d id = (src.function id
      (fetchEach src (g.functionIds.takeWhile (· ≠ id)) d).2.source).1 := by
  have hcached := lookup_fetchEach_of_not_mem src d
    (not_mem_takeWhile_ne g.functionIds id)
  rw [answerFor, answerAmong, Desk.function_of_not_cached (hcached.trans h)]

/-! ## All of them -/

theorem knownIn_cons_self (f : Fetched) : knownIn ((id, f) :: answers) id = f := by
  simp [knownIn]

theorem knownIn_cons_of_ne {first : FunctionId} (f : Fetched) (h : id ≠ first) :
    knownIn ((first, f) :: answers) id = knownIn answers id := by
  simp [knownIn, List.lookup_cons, beq_false_of_ne h]

theorem keys_fetchEach (ids : List FunctionId) (d : Desk σ) :
    (fetchEach src ids d).1.map Prod.fst = ids := by
  induction ids generalizing d with
  | nil => rfl
  | cons id rest ih =>
    rw [fetchEach, List.map_cons]
    exact congrArg (id :: ·) (ih _)

theorem keys_collect {asked : List (FunctionId × Except Error Fetched)}
    (h : collect asked = .ok answers) : answers.map Prod.fst = asked.map Prod.fst := by
  induction asked generalizing answers with
  | nil =>
    cases h
    rfl
  | cons a rest ih =>
    simp only [collect, bind_eq_ok_iff, pure, Except.pure, Except.ok.injEq] at h
    obtain ⟨fetched, -, later, hlater, rfl⟩ := h
    rw [List.map_cons, List.map_cons, ih hlater]

/-- A report is one on answers for the functions of the graph. -/
theorem exists_answers_of_validate {g : StepGraph} {report : Report}
    (h : (validate src g d).1 = .ok report) :
    ∃ answers, reportOn g answers = .ok report ∧ (answers.map Prod.fst).Nodup := by
  simp only [validate, bind_eq_ok_iff] at h
  obtain ⟨answers, hcollect, hreport⟩ := h
  refine ⟨answers, hreport, ?_⟩
  rw [keys_collect hcollect, keys_fetchEach]
  exact g.nodup_functionIds

/-- The lookups of distinct functions give what each is answered in its turn. -/
theorem exists_collect_eq_ok (hsrc : src.FailsOnlyToFetch) (hnd : ids.Nodup) (d : Desk σ) :
    ∃ answers, collect (fetchEach src ids d).1 = .ok answers ∧
      ∀ id ∈ ids, Tells (answerAmong src ids d id) (knownIn answers id) := by
  induction ids generalizing d with
  | nil => exact ⟨[], rfl, by simp⟩
  | cons first rest ih =>
    rw [List.nodup_cons] at hnd
    obtain ⟨f, hf, htells⟩ := exists_fetch_eq_ok hsrc first d
    obtain ⟨later, hlater, hrest⟩ := ih hnd.2 (fetch src first d).2
    refine ⟨(first, f) :: later, ?_, ?_⟩
    · rw [fetchEach]
      simp only [collect, hf, hlater, bind, Except.bind, pure, Except.pure]
    · intro id hid
      by_cases h : id = first
      · subst h
        rw [answerAmong_cons_self, knownIn_cons_self]
        exact htells
      · rw [answerAmong_cons_of_ne rest (Ne.symm h), knownIn_cons_of_ne f h]
        exact hrest id (List.mem_of_ne_of_mem h hid)

/-- The signature of a function is found under its text. -/
theorem lookup_signaturesIn (hnd : (answers.map Prod.fst).Nodup) (id : FunctionId) :
    (signaturesIn answers).lookup id.text = (knownIn answers id).signature := by
  induction answers with
  | nil => rfl
  | cons a rest ih =>
    obtain ⟨first, f⟩ := a
    rw [List.map_cons, List.nodup_cons] at hnd
    have hrest := ih hnd.2
    by_cases h : id = first
    · subst h
      rw [knownIn_cons_self]
      cases hf : f.signature with
      | some sig => simp [signaturesIn, hf]
      | none =>
        -- no later answer is about the same function
        have hnew : rest.lookup id = none := by
          rw [List.lookup_eq_none_iff]
          intro p hp
          rw [bne_iff_ne]
          exact fun hpid => hnd.1 (List.mem_map.mpr ⟨p, hp, hpid.symm⟩)
        simpa [signaturesIn, hf, knownIn, hnew] using hrest
    -- another function has another text
    · have hne : id.text ≠ first.text := fun ht => h (FunctionId.text_injective ht)
      rw [knownIn_cons_of_ne f h, ← hrest]
      cases hf : f.signature <;>
        simp [signaturesIn, hf, List.lookup_cons, beq_false_of_ne hne]

/-- **Validation reports on what was answered for the functions of the graph.** -/
theorem exists_validate_eq (hsrc : src.FailsOnlyToFetch) (g : StepGraph) (d : Desk σ) :
    ∃ answers, (validate src g d).1 = reportOn g answers ∧
      (answers.map Prod.fst).Nodup ∧
      ∀ s ∈ g.steps, Tells (answerFor src g d s.function) (knownIn answers s.function) := by
  obtain ⟨answers, hcollect, htells⟩ := exists_collect_eq_ok hsrc g.nodup_functionIds d
  refine ⟨answers, ?_, ?_, fun s hs => htells _ (StepGraph.mem_functionIds.mpr ⟨s, hs, rfl⟩)⟩
  · rw [validate]
    simp only [hcollect]
    rfl
  · rw [keys_collect hcollect, keys_fetchEach]
    exact g.nodup_functionIds

end Validation

end MovePlan
