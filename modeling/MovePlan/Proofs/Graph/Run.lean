import MovePlan.Proofs.Graph.Resolver

/-!
# Runs of the resolver

Steps are resolved one after the other, and after each the handles on its outputs are recorded. Who
gives the handles differs: a script gives them for the calls it is asked for, and without a script
placeholders stand in. A run leaves that open (`gives`), so that what is recorded, what is moved and
what every argument stands for is said once for both.

A run is extended at its end. What holds of it is shown by induction on it, the resolver at its end
being the one that the next step is resolved with.
-/

namespace MovePlan

open Graph

/-- Steps that are resolved, with their calls, the handles that were recorded after each, and the
resolver at the end. -/
inductive Run (signer : Int)
    (gives : List ResolvedCall → Step → ResolvedCall → List Handle → Prop) :
    List Step → List ResolvedCall → List (List Handle) → Resolver → Prop where
  | nil : Run signer gives [] [] [] { signer }
  | snoc {steps : List Step} {calls : List ResolvedCall} {outputs : List (List Handle)}
      {r r' : Resolver} {s : Step} {c : ResolvedCall} {handles : List Handle}
      (run : Run signer gives steps calls outputs r) (hs : r.resolveStep s = (.ok c, r'))
      (hg : gives calls s c handles) :
    Run signer gives (steps ++ [s]) (calls ++ [c]) (outputs ++ [handles])
      (r'.record s.label handles)

/-- The handle for a reference of step `k`: the one at its index among the handles on the outputs of
the earlier step that it names. -/
def ProvidedBefore (steps : List Step) (outputs : List (List Handle)) (k : Nat) (ref : Ref)
    (h : Handle) : Prop :=
  ∃ i producer handles, i < k ∧ steps[i]? = some producer ∧ producer.label = ref.step ∧
    outputs[i]? = some handles ∧ handles[ref.index]? = some h

/-- What was given before a step is still there after later steps. -/
theorem ProvidedBefore.append {steps : List Step} {outputs : List (List Handle)} {k : Nat} {ref : Ref}
    {h : Handle} (hp : ProvidedBefore steps outputs k ref h) (more : List Step)
    (added : List (List Handle)) : ProvidedBefore (steps ++ more) (outputs ++ added) k ref h := by
  obtain ⟨i, producer, handles, hi, hproducer, hlabel, hout, hh⟩ := hp
  refine ⟨i, producer, handles, hi, ?_, hlabel, ?_, hh⟩
  · rw [List.getElem?_append_left (List.getElem?_eq_some_iff.mp hproducer).1, hproducer]
  · rw [List.getElem?_append_left (List.getElem?_eq_some_iff.mp hout).1, hout]

namespace Run

variable {signer : Int} {gives : List ResolvedCall → Step → ResolvedCall → List Handle → Prop}
  {steps : List Step} {calls : List ResolvedCall} {outputs : List (List Handle)} {r : Resolver}

theorem length_calls (run : Run signer gives steps calls outputs r) :
    calls.length = steps.length := by
  induction run with
  | nil => rfl
  | snoc _ _ _ ih => simp [ih]

theorem length_outputs (run : Run signer gives steps calls outputs r) :
    outputs.length = steps.length := by
  induction run with
  | nil => rfl
  | snoc _ _ _ ih => simp [ih]

theorem signer_eq (run : Run signer gives steps calls outputs r) : r.signer = signer := by
  induction run with
  | nil => rfl
  | snoc _ hs _ ih =>
    obtain ⟨-, rfl⟩ := Resolver.resolveStep_eq_ok hs
    exact ih

/-- **What is moved in a run are the moves of its steps.** -/
theorem moved_eq (run : Run signer gives steps calls outputs r) :
    r.moved = steps.flatMap fun s => movesOf s.label s.refs := by
  induction run with
  | nil => rfl
  | snoc _ hs _ ih =>
    obtain ⟨-, rfl⟩ := Resolver.resolveStep_eq_ok hs
    simp [Resolver.record, ih]

theorem mover?_isSome_iff (run : Run signer gives steps calls outputs r) {t : String × Nat} :
    (r.mover? t).isSome = true ↔ ∃ s ∈ steps, ∃ u ∈ s.refs, u.target = t ∧ u.mode = .move := by
  have hsplit : (r.mover? t).isSome = true ↔
      ∃ s ∈ steps, ((movesOf s.label s.refs).lookup t).isSome = true := by
    simp only [Resolver.mover?, run.moved_eq, List.lookup_isSome_iff, List.mem_flatMap]
    constructor
    · rintro ⟨p, ⟨s, hs, hp⟩, ht⟩
      exact ⟨s, hs, p, hp, ht⟩
    · rintro ⟨s, hs, p, hp, ht⟩
      exact ⟨p, ⟨s, hs, hp⟩, ht⟩
  simpa only [lookup_movesOf_isSome_iff] using hsplit

/-- **What is recorded in a run are the handles of each step, under its label.** -/
theorem outputs_eq (run : Run signer gives steps calls outputs r)
    (hnd : (steps.map Step.label).Nodup) : r.outputs = (steps.map Step.label).zip outputs := by
  induction run with
  | nil => rfl
  | @snoc steps _ outputs r _ s _ handles run hs _ ih =>
    obtain ⟨-, rfl⟩ := Resolver.resolveStep_eq_ok hs
    rw [List.map_append, List.nodup_append] at hnd
    have hout := ih hnd.1
    have hlen : (steps.map Step.label).length = outputs.length := by
      rw [List.length_map, run.length_outputs]
    -- the label is new, so that the handles go to the end
    have hnew : s.label ∉ Resolver.recordedLabels
        { r with moved := r.moved ++ movesOf s.label s.refs } := by
      rw [Resolver.recordedLabels, hout, List.map_fst_zip (Nat.le_of_eq hlen)]
      exact fun hm => hnd.2.2 _ hm _ (by simp) rfl
    rw [Resolver.record_of_not_mem hnew, hout, List.map_append, List.zip_append hlen]
    rfl

/-- The handle that is recorded for a reference was given for an earlier step. -/
theorem providedBefore (run : Run signer gives steps calls outputs r)
    (hnd : (steps.map Step.label).Nodup) {ref : Ref} {h : Handle} (hp : r.Provides ref h) :
    ProvidedBefore steps outputs steps.length ref h := by
  obtain ⟨handles, ho, hi⟩ := hp
  rw [Resolver.outputs?, run.outputs_eq hnd] at ho
  obtain ⟨before, after, hsplit, -⟩ := List.lookup_eq_some_iff.mp ho
  have hmem : (ref.step, handles) ∈ (steps.map Step.label).zip outputs := by simp [hsplit]
  obtain ⟨i, hat⟩ := List.mem_iff_getElem?.mp hmem
  rw [List.getElem?_zip_eq_some, List.getElem?_map, Option.map_eq_some_iff] at hat
  obtain ⟨⟨producer, hproducer, hlabel⟩, hout⟩ := hat
  exact ⟨i, producer, handles, (List.getElem?_eq_some_iff.mp hproducer).1, hproducer, hlabel, hout,
    hi⟩

/-- **Each step of a run has its call**, whose arguments stand for those of the step, each reference
for a handle that was given for an earlier step. -/
theorem call_at (run : Run signer gives steps calls outputs r)
    (hnd : (steps.map Step.label).Nodup) {k : Nat} {s : Step} (hk : steps[k]? = some s) :
    ∃ c handles, calls[k]? = some c ∧ outputs[k]? = some handles ∧
      gives (calls.take k) s c handles ∧ c.label = s.label ∧ c.function = s.function ∧
      c.typeArguments = s.typeArguments ∧
      List.Forall₂ (Arg.StandsFor signer (ProvidedBefore steps outputs k)) s.args c.args := by
  induction run with
  | nil => simp at hk
  | @snoc steps calls outputs r _ last c handles run hs hg ih =>
    rw [List.map_append, List.nodup_append] at hnd
    have hcalls := run.length_calls
    have houtputs := run.length_outputs
    rcases Nat.lt_or_ge k steps.length with hlt | hge
    · rw [List.getElem?_append_left hlt] at hk
      obtain ⟨c', hh, hc, hout, hgive, hlabel, hfun, htypes, hargs⟩ := ih hnd.1 hk
      refine ⟨c', hh, ?_, ?_, ?_, hlabel, hfun, htypes,
        hargs.imp fun _ _ => Arg.StandsFor.imp fun _ _ hp => hp.append [last] [handles]⟩
      · rw [List.getElem?_append_left (by omega), hc]
      · rw [List.getElem?_append_left (by omega), hout]
      · rwa [List.take_append_of_le_length (by omega)]
    · have hlen := (List.getElem?_eq_some_iff.mp hk).1
      rw [List.length_append, List.length_singleton] at hlen
      obtain rfl : k = steps.length := by omega
      rw [List.getElem?_concat_length, Option.some.injEq] at hk
      subst hk
      obtain ⟨⟨hlabel, hfun, htypes, hargs⟩, -⟩ := Resolver.resolveStep_eq_ok hs
      refine ⟨c, handles, ?_, ?_, ?_, hlabel, hfun, htypes, ?_⟩
      · rw [← hcalls, List.getElem?_concat_length]
      · rw [← houtputs, List.getElem?_concat_length]
      · rwa [← hcalls, List.take_left' rfl]
      · rw [run.signer_eq] at hargs
        exact hargs.imp fun _ _ => Arg.StandsFor.imp fun _ _ hp =>
          (run.providedBefore hnd.1 hp).append [last] [handles]

end Run

/-! ## Resolution with placeholders -/

/-- The placeholders for a step's outputs, as many as its arity tells. -/
def GivesPlaceholders (arity : Step → Except Error Nat) (calls : List ResolvedCall) (s : Step)
    (_ : ResolvedCall) (handles : List Handle) : Prop :=
  ∃ n, arity s = .ok n ∧ handles = placeholders calls.length n

/-- Steps that are resolved go on a run. -/
theorem Run.resolveSteps {signer : Int} {arity : Step → Except Error Nat} {done steps : List Step}
    {calls later : List ResolvedCall} {outputs : List (List Handle)} {r r' : Resolver}
    (run : Run signer (GivesPlaceholders arity) done calls outputs r)
    (h : resolveSteps arity r calls.length steps = (.ok later, r')) :
    ∃ added, Run signer (GivesPlaceholders arity) (done ++ steps) (calls ++ later)
      (outputs ++ added) r' := by
  induction steps generalizing done calls later outputs r with
  | nil =>
    cases h
    exact ⟨[], by simpa using run⟩
  | cons s rest ih =>
    rw [MovePlan.resolveSteps] at h
    split at h
    · cases h
    · next c r₁ hs =>
      split at h
      · cases h
      · next n hn =>
        split at h
        · cases h
        · next rest' r₂ hrest =>
          cases h
          obtain ⟨added, hrun⟩ := ih (run.snoc hs ⟨n, hn, rfl⟩) (by simpa using hrest)
          exact ⟨_ :: added, by simpa using hrun⟩

end MovePlan
