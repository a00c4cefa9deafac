import MovePlan.Proofs.Graph.Run

/-!
# Data flow of a resolved graph

When a graph is resolved, its calls stand in the order of its steps, and each reference becomes a
handle on the call of the step that it names (`Arg.FlowsTo`). Only steps that were resolved earlier
have outputs, so that values flow forward.

The second half is about what is used up. A reference is resolved only to an output that no reference
before it moved. That holds along the arguments of one step (`resolveArgs_spares`) and along a whole
run (`Run.pairwise_refs`), and since different outputs have different handles, it holds of the handles
in the calls.
-/

namespace MovePlan

open Graph

/-! ## References before a move and after it -/

/-- Whether a reference leaves to a later one what that asks for. -/
def Graph.Ref.Spares (r later : Ref) : Prop := r.mode = .move → later.target ≠ r.target

namespace Resolver

variable {r r' : Resolver} {user : String}

/-- A reference that is resolved is to an output that was not gone. -/
theorem mover?_of_resolveArg {ref : Ref} {x : Resolved}
    (h : r.resolveArg (.ref ref) user = (.ok x, r')) : r.mover? ref.target = none := by
  have hcase := resolveCase_resolveRef r ref user
  rw [resolveArg] at h
  generalize r.resolveRef ref user = out at hcase h
  cases hcase with
  | unknown | outOfRange | taken => cases h
  | given ho hi hm => exact hm

/-- Arguments that are resolved refer to outputs that were not gone, and each leaves to those after it
what they ask for. -/
theorem resolveArgs_spares {args : List Arg} {xs : List Resolved}
    (h : r.resolveArgs user args = (.ok xs, r')) :
    (∀ ref ∈ args.filterMap Arg.ref?, r.mover? ref.target = none) ∧
      (args.filterMap Arg.ref?).Pairwise Ref.Spares := by
  induction args generalizing r xs with
  | nil => exact ⟨by simp, .nil⟩
  | cons a rest ih =>
    obtain ⟨x, r₁, later, hx, hlater, rfl⟩ := resolveArgs_cons_eq_ok h
    obtain ⟨-, hr₁⟩ := resolveArg_eq_ok hx
    obtain ⟨hfree, hpairwise⟩ := ih hlater
    -- what is free after the first argument was free before it, and is not what it moves
    have hbefore : ∀ ref ∈ rest.filterMap Arg.ref?, r.mover? ref.target = none ∧
        (movesOf user a.ref?.toList).lookup ref.target = none := by
      intro ref href
      have hnone := hfree ref href
      rw [hr₁, mover?, List.lookup_append, Option.or_eq_none_iff] at hnone
      exact hnone
    cases ha : a.ref? with
    | none =>
      rw [List.filterMap_cons_none ha]
      exact ⟨fun ref href => (hbefore ref href).1, hpairwise⟩
    | some first =>
      obtain rfl := Arg.ref?_eq_some_iff.mp ha
      rw [List.filterMap_cons_some ha]
      refine ⟨List.forall_mem_cons.mpr ⟨mover?_of_resolveArg hx, fun ref href => (hbefore ref href).1⟩,
        .cons (fun ref href hmove htarget => ?_) hpairwise⟩
      have hmoved : ((movesOf user [first]).lookup ref.target).isSome = true :=
        lookup_movesOf_isSome_iff.mpr ⟨first, List.mem_singleton_self first, htarget.symm, hmove⟩
      have hfree : (movesOf user [first]).lookup ref.target = none := (hbefore ref href).2
      rw [hfree] at hmoved
      cases hmoved

end Resolver

/-- **Along a run each reference leaves to those after it what they ask for.** -/
theorem Run.pairwise_refs {signer : Int}
    {gives : List ResolvedCall → Step → ResolvedCall → List Handle → Prop} {steps : List Step}
    {calls : List ResolvedCall} {outputs : List (List Handle)} {r : Resolver}
    (run : Run signer gives steps calls outputs r) :
    (steps.flatMap Step.refs).Pairwise Ref.Spares := by
  induction run with
  | nil => exact .nil
  | @snoc steps calls outputs r r' s c handles run hs hg ih =>
    rw [Resolver.resolveStep] at hs
    split at hs
    · cases hs
    · next xs r₁ hxs =>
      obtain ⟨hfree, hpairwise⟩ := Resolver.resolveArgs_spares hxs
      rw [List.flatMap_append, List.flatMap_singleton]
      refine List.pairwise_append.mpr ⟨ih, hpairwise, fun u hu ref href hmove htarget => ?_⟩
      -- what an earlier step moved is among the moves of the resolver
      obtain ⟨t, ht, hut⟩ := List.mem_flatMap.mp hu
      have hmoved := run.mover?_isSome_iff.mpr ⟨t, ht, u, hut, htarget.symm, hmove⟩
      rw [hfree ref href] at hmoved
      cases hmoved

/-! ## From references to handles -/

/-- What an argument of step `k` becomes: the signer, the value of the literal, or a handle on the
call of the earlier step that the reference names. -/
inductive Graph.Arg.FlowsTo (g : StepGraph) (signer : Int) (k : Nat) : Arg → Resolved → Prop where
  | signer : FlowsTo g signer k .signer (.signer signer)
  | literal {v w : Json} (h : decodeLiteral v = .ok w) : FlowsTo g signer k (.literal v) (.value w)
  | ref {r : Ref} {producer : Nat} (hp : g.indexOf? r.step = some producer) (hlt : producer < k) :
    FlowsTo g signer k (.ref r) (.handle ⟨producer, r.index, r.mode⟩)

/-- The handle in an argument of a call, if it is one. -/
def Resolved.handle? : Resolved → Option Handle
  | handle h => some h
  | signer _ | value _ => none

/-- The handles that calls take, in the order of calls and of arguments. -/
def handlesIn (calls : List ResolvedCall) : List Handle :=
  calls.flatMap fun c => c.args.filterMap Resolved.handle?

/-- A value that is moved in a call is taken by no later argument, in no mode. -/
def MovesLast (calls : List ResolvedCall) : Prop :=
  (handlesIn calls).Pairwise fun h later =>
    h.mode = .move → ¬(later.call = h.call ∧ later.index = h.index)

/-- What is taken by no later argument is moved once. -/
theorem MovesLast.count_le_one {calls : List ResolvedCall} (h : MovesLast calls) (call index : Int) :
    (handlesIn calls).count ⟨call, index, .move⟩ ≤ 1 := by
  by_contra hcount
  have htwice : (List.replicate 2 (⟨call, index, .move⟩ : Handle)).Sublist (handlesIn calls) :=
    List.replicate_sublist_iff.mpr (by omega)
  have hpair := List.Pairwise.sublist htwice h
  exact List.pairwise_pair.mp hpair rfl ⟨rfl, rfl⟩

namespace StepGraph

variable {g : StepGraph} {signer : Int} {calls : List ResolvedCall}

/-- The handle for a reference. -/
def handleFor? (g : StepGraph) (r : Ref) : Option Handle :=
  (g.indexOf? r.step).map fun producer : Nat => ⟨producer, r.index, r.mode⟩

theorem handleFor?_eq_some_iff {r : Ref} {h : Handle} : g.handleFor? r = some h ↔
    ∃ producer : Nat, g.indexOf? r.step = some producer ∧ ⟨producer, r.index, r.mode⟩ = h := by
  rw [handleFor?, Option.map_eq_some_iff]

/-- References with handles on the same output ask for the same output. -/
theorem target_eq_of_handleFor? {r r' : Ref} {h h' : Handle} (hr : g.handleFor? r = some h)
    (hr' : g.handleFor? r' = some h') (hcall : h.call = h'.call) (hindex : h.index = h'.index) :
    r.target = r'.target := by
  obtain ⟨i, hi, rfl⟩ := handleFor?_eq_some_iff.mp hr
  obtain ⟨j, hj, rfl⟩ := handleFor?_eq_some_iff.mp hr'
  obtain rfl : i = j := Int.ofNat_inj.mp hcall
  obtain ⟨s, hs, hlabel⟩ := indexOf?_eq_some_iff.mp hi
  obtain ⟨t, ht, hlabel'⟩ := indexOf?_eq_some_iff.mp hj
  have hst : s = t := Option.some.inj (hs.symm.trans ht)
  have hsame : r.index = r'.index := Int.ofNat_inj.mp hindex
  rw [Ref.target, Ref.target, ← hlabel, ← hlabel', hst, hsame]

/-- The handles in the arguments of a call are those for the references of its step. -/
theorem filterMap_handle? {k : Nat} {args : List Arg} {xs : List Resolved}
    (h : List.Forall₂ (Arg.FlowsTo g signer k) args xs) :
    xs.filterMap Resolved.handle? = (args.filterMap Arg.ref?).filterMap g.handleFor? := by
  induction h with
  | nil => rfl
  | cons ha _ ih =>
    cases ha with
    | signer | literal => exact ih
    | @ref r producer hp =>
      have hhandle := handleFor?_eq_some_iff.mpr ⟨producer, hp, rfl⟩
      have hrefs : ∀ rest, (Arg.ref r :: rest).filterMap Arg.ref? = r :: rest.filterMap Arg.ref? :=
        fun _ => rfl
      rw [hrefs, List.filterMap_cons_some hhandle, ← ih]
      rfl

theorem movesLast_of_refs (hrefs : (g.steps.flatMap Step.refs).Pairwise Ref.Spares)
    (hhandles : handlesIn calls = (g.steps.flatMap Step.refs).filterMap g.handleFor?) :
    MovesLast calls := by
  rw [MovesLast, hhandles]
  refine hrefs.filterMap _ fun r later hspares h hr h' hlater hmove ⟨hcall, hindex⟩ => ?_
  obtain ⟨i, -, rfl⟩ := handleFor?_eq_some_iff.mp hr
  have hrmove : r.mode = .move := hmove
  exact hspares hrmove (target_eq_of_handleFor? hlater hr hcall hindex)

/-! ## The whole graph -/

/-- Whether calls are the ones that the steps declare, each value flowing from the step that has it to
those that refer to it. -/
structure DataFlow (g : StepGraph) (signer : Int) (calls : List ResolvedCall) : Prop where
  length_calls : calls.length = g.steps.length
  call_at : ∀ k s, g.steps[k]? = some s → ∃ c, calls[k]? = some c ∧ c.label = s.label ∧
    c.function = s.function ∧ c.typeArguments = s.typeArguments ∧ c.args.length = s.args.length ∧
    List.Forall₂ (Arg.FlowsTo g signer k) s.args c.args
  moved_once : ∀ call index, (handlesIn calls).count ⟨call, index, .move⟩ ≤ 1
  moved_last : MovesLast calls

/-- Where placeholders are given for the outputs, a handle on them is on the call of the earlier step. -/
theorem flowsTo_of_standsFor {outputs : List (List Handle)} {arity : Step → Except Error Nat}
    (hout : ∀ i s handles, g.steps[i]? = some s → outputs[i]? = some handles →
      ∃ n, arity s = .ok n ∧ handles = placeholders i n)
    {k : Nat} {a : Arg} {x : Resolved}
    (h : a.StandsFor signer (ProvidedBefore g.steps outputs k) x) : a.FlowsTo g signer k x := by
  cases h with
  | signer => exact .signer
  | literal hv => exact .literal hv
  | @ref r hd hp =>
    obtain ⟨i, producer, handles, hi, hproducer, hlabel, hhandles, hat⟩ := hp
    obtain ⟨n, -, rfl⟩ := hout i producer handles hproducer hhandles
    obtain ⟨j, hj, rfl⟩ : ∃ j : Nat, (List.range n)[r.index]? = some j ∧ ⟨i, j, .move⟩ = hd := by
      rwa [placeholders, List.getElem?_map, Option.map_eq_some_iff] at hat
    obtain rfl : r.index = j := by
      obtain ⟨hj, rfl⟩ := List.getElem?_eq_some_iff.mp hj
      rw [List.getElem_range]
    have hused : Handle.used ⟨i, r.index, .move⟩ r.mode = ⟨i, r.index, r.mode⟩ := by
      by_cases hmode : r.mode = .move <;> simp [Handle.used, hmode]
    rw [hused]
    exact .ref (indexOf?_eq_some_iff.mpr ⟨producer, hproducer, hlabel⟩) hi

/-- A graph is resolved by a run over its steps. -/
theorem exists_run_of_resolve {arity : Step → Except Error Nat}
    (h : g.resolve arity signer = .ok calls) :
    ∃ outputs r, Run signer (GivesPlaceholders arity) g.steps calls outputs r := by
  obtain ⟨r, hr⟩ : ∃ r, g.resolveAll arity signer = (.ok calls, r) := ⟨_, Prod.ext h rfl⟩
  have hstart : Run signer (GivesPlaceholders arity) [] [] [] { signer } := .nil
  obtain ⟨outputs, run⟩ := hstart.resolveSteps hr
  exact ⟨outputs, r, run⟩

/-- **Each step of a run over placeholders has the call that it declares.** -/
theorem call_at_of_run {arity : Step → Except Error Nat} {outputs : List (List Handle)}
    {r : Resolver} (run : Run signer (GivesPlaceholders arity) g.steps calls outputs r) {k : Nat}
    {s : Step} (hk : g.steps[k]? = some s) :
    ∃ c, calls[k]? = some c ∧ c.label = s.label ∧ c.function = s.function ∧
      c.typeArguments = s.typeArguments ∧
      List.Forall₂ (Arg.FlowsTo g signer k) s.args c.args := by
  have hout : ∀ i s handles, g.steps[i]? = some s → outputs[i]? = some handles →
      ∃ n, arity s = .ok n ∧ handles = placeholders i n := by
    intro i s handles hs hhandles
    obtain ⟨c, handles', hc, hhandles', ⟨n, hn, hplace⟩, -⟩ := run.call_at g.nodup_labels hs
    obtain rfl : handles = handles' := Option.some.inj (hhandles.symm.trans hhandles')
    -- the number of a call is the number of calls before it
    have hlt : i < calls.length := (List.getElem?_eq_some_iff.mp hc).1
    rw [List.length_take_of_le (Nat.le_of_lt hlt)] at hplace
    exact ⟨n, hn, hplace⟩
  obtain ⟨c, handles, hc, -, -, hlabel, hfun, htypes, hargs⟩ := run.call_at g.nodup_labels hk
  exact ⟨c, hc, hlabel, hfun, htypes, hargs.imp fun _ _ => flowsTo_of_standsFor hout⟩

/-- The handles of the calls are those for the references of the steps, in order. -/
theorem handlesIn_eq {steps : List Step}
    (h : List.Forall₂ (fun s c => ∃ k, List.Forall₂ (Arg.FlowsTo g signer k) s.args c.args)
      steps calls) :
    handlesIn calls = (steps.flatMap Step.refs).filterMap g.handleFor? := by
  induction h with
  | nil => rfl
  | cons hc _ ih =>
    obtain ⟨k, hargs⟩ := hc
    rw [handlesIn] at ih ⊢
    rw [List.flatMap_cons, List.flatMap_cons, List.filterMap_append, filterMap_handle? hargs, ih]
    rfl

theorem movesLast_of_run {arity : Step → Except Error Nat} {outputs : List (List Handle)}
    {r : Resolver} (run : Run signer (GivesPlaceholders arity) g.steps calls outputs r) :
    MovesLast calls := by
  have hcalls : List.Forall₂ (fun s c => ∃ k, List.Forall₂ (Arg.FlowsTo g signer k) s.args c.args)
      g.steps calls := by
    refine List.forall₂_iff_get.mpr ⟨run.length_calls.symm, fun k hk hk' => ?_⟩
    obtain ⟨c, hc, -, -, -, hargs⟩ := call_at_of_run run (List.getElem?_eq_getElem hk)
    obtain rfl : calls.get ⟨k, hk'⟩ = c := (List.getElem?_eq_some_iff.mp hc).2
    exact ⟨k, hargs⟩
  exact movesLast_of_refs run.pairwise_refs (handlesIn_eq hcalls)

/-- **A resolved graph has exactly the declared data flow.** -/
theorem dataFlow_of_resolve {arity : Step → Except Error Nat}
    (h : g.resolve arity signer = .ok calls) : DataFlow g signer calls := by
  obtain ⟨outputs, r, run⟩ := exists_run_of_resolve h
  have hlast : MovesLast calls := movesLast_of_run run
  refine ⟨run.length_calls, fun k s hk => ?_, hlast.count_le_one, hlast⟩
  obtain ⟨c, hc, hlabel, hfun, htypes, hargs⟩ := call_at_of_run run hk
  exact ⟨c, hc, hlabel, hfun, htypes, hargs.length_eq.symm, hargs⟩

/-- A graph in which outputs of one step are borrowed, copied and in the end moved. -/
def relay : StepGraph where
  steps := [
    { label := "split", function := default, args := [.signer, .literal (.str "5n")] },
    { label := "look", function := default,
      args := [.ref ⟨"split", 1, .borrow⟩, .ref ⟨"split", 0, .copy⟩] },
    { label := "join", function := default,
      args := [.ref ⟨"split", 0, .move⟩, .literal (.str "x"), .ref ⟨"look", 0, .borrowMut⟩,
        .ref ⟨"split", 1, .move⟩] }]

theorem dataFlow_relay : ∃ calls, relay.resolve (fun _ => .ok 2) 3 = .ok calls ∧
    DataFlow relay 3 calls ∧
    handlesIn calls = [⟨0, 1, .borrow⟩, ⟨0, 0, .copy⟩, ⟨0, 0, .move⟩, ⟨1, 0, .borrowMut⟩,
      ⟨0, 1, .move⟩] := by
  obtain ⟨calls, hcalls, hhandles⟩ : ∃ calls, relay.resolve (fun _ => .ok 2) 3 = .ok calls ∧
      handlesIn calls = [⟨0, 1, .borrow⟩, ⟨0, 0, .copy⟩, ⟨0, 0, .move⟩, ⟨1, 0, .borrowMut⟩,
        ⟨0, 1, .move⟩] := ⟨_, rfl, rfl⟩
  exact ⟨calls, hcalls, dataFlow_of_resolve hcalls, hhandles⟩

end StepGraph

end MovePlan
