import MovePlan.Proofs.Graph.Run
import MovePlan.Proofs.Validation.References

/-!
# The walk over the references and the resolver agree

The validator's walk goes on after a finding, and knows the number of a step's outputs only where the
signature of its function is known. The resolver stops at the first failure and counts the handles
that were recorded. Both keep the labels they have passed and the outputs that were moved.

They go in lockstep: while there is no finding they stand at the same point (`Agrees`), and the first
finding is about the reference at which the resolver fails, for the same reason (`SameFault`). This is
shown for one argument, for the arguments of a step and for the steps of a graph, each from the one
before.
-/

namespace MovePlan.Validation

open Graph Error

/-- Whether the walk and the resolver stand at the same point, a step that is recorded having as many
handles as `outputs` says of its label. -/
structure Agrees (outputs : String → Nat) (w : RefWalk) (r : Resolver) : Prop where
  labels : r.recordedLabels = w.declared
  moved : r.moved = w.moved
  length : ∀ l handles, r.outputs? l = some handles → handles.length = outputs l

/-- Whether the number of a step's outputs is the arity that is known, or is enough for a reference
to it if none is known. -/
structure Fits (arity : String → Option Nat) (outputs : String → Nat) (ref : Ref) : Prop where
  known : ∀ n, arity ref.step = some n → outputs ref.step = n
  unknown : arity ref.step = none → ref.index < outputs ref.step

/-- Whether a finding about a reference and the failure to resolve it have the same reason: the step
it names is not among those declared, has too few outputs, or the output was moved by the same step. -/
inductive SameFault (user : String) (ref : Ref) (declared : List String) : Issue → Error → Prop where
  | undeclared :
    SameFault user ref declared (.referenceOrder (.str ref.step))
      (.unknownStep (.str ref.step) user declared)
  | outOfRange (n : Nat) :
    SameFault user ref declared (.returnIndex ref.step n ref.index)
      (.returnIndexOutOfBounds ref.step ref.index n user)
  | taken (mover : String) :
    SameFault user ref declared (.repeatedMove ref.step ref.index ref.mode mover)
      (.alreadyMoved ref.step ref.index mover user)

variable {arity : String → Option Nat} {outputs : String → Nat} {user : String} {ref : Ref}
  {w w' : RefWalk} {r r' : Resolver}

namespace Agrees

/-- At the beginning nothing is declared and nothing moved on either side. -/
theorem nil (outputs : String → Nat) (signer : Int) : Agrees outputs {} { signer } :=
  ⟨rfl, rfl, fun _ _ h => by cases h⟩

/-- A reference that passes leaves the two in agreement. -/
theorem pass (h : Agrees outputs w r) (user : String) (ref : Ref) :
    Agrees outputs (w.pass user ref) (r.pass user ref) :=
  ⟨h.labels, by rw [RefWalk.pass, Resolver.pass, h.moved], h.length⟩

/-- Both pass to the next step once as many handles are recorded as the step has outputs. -/
theorem record (h : Agrees outputs w r) {label : String} {handles : List Handle}
    (hnew : label ∉ w.declared) (hlen : handles.length = outputs label) :
    Agrees outputs { w with declared := w.declared ++ [label] } (r.record label handles) := by
  have hnew' : label ∉ r.recordedLabels := h.labels ▸ hnew
  rw [Resolver.record_of_not_mem hnew']
  refine ⟨?_, h.moved, fun l hs hl => ?_⟩
  · simpa [Resolver.recordedLabels] using h.labels
  · rw [Resolver.outputs?, List.lookup_append, Option.or_eq_some_iff] at hl
    rcases hl with hl | ⟨-, hl⟩
    · exact h.length l hs hl
    · by_cases he : l = label
      · subst he
        rw [List.lookup_cons_self, Option.some.injEq] at hl
        rw [← hl, hlen]
      · simp [List.lookup_cons, beq_false_of_ne he] at hl

end Agrees

/-! ## One argument -/

/-- The walk leaves room for a reference exactly if there is an output for it. -/
theorem Fits.inRange_iff (hf : Fits arity outputs ref) :
    (∀ n, arity ref.step = some n → ref.index < n) ↔ ref.index < outputs ref.step := by
  constructor
  · intro hr
    cases ha : arity ref.step with
    | none => exact hf.unknown ha
    | some n =>
      rw [hf.known n ha]
      exact hr n ha
  · intro hlt n ha
    rwa [← hf.known n ha]

theorem Agrees.mem_declared (h : Agrees outputs w r) {label : String} :
    label ∈ w.declared ↔ ∃ handles, r.outputs? label = some handles := by
  rw [← Option.isSome_iff_exists, Resolver.outputs?_isSome_iff, h.labels]

/-- A reference passes on both sides, or is at fault on both in the same way. -/
theorem checkRef_resolveRef (user : String) (h : Agrees outputs w r) (hf : Fits arity outputs ref)
    (htext : Numeric.hasText ref.index = true) :
    (checkRef arity user ref w = (none, w.pass user ref) ∧
      ∃ hd, r.resolveRef ref user = (.ok hd, r.pass user ref)) ∨
    ∃ issue e, checkRef arity user ref w = (some issue, w) ∧
      r.resolveRef ref user = (.error e, r) ∧ SameFault user ref w.declared issue e := by
  have hcheck := refCase_checkRef arity user ref w
  have hresolve := Resolver.resolveCase_resolveRef r ref user
  generalize checkRef arity user ref w = checked at hcheck ⊢
  generalize r.resolveRef ref user = resolved at hresolve ⊢
  -- whichever way the reference is resolved, one case of the walk is left
  cases hresolve with
  | unknown ho =>
    have hd : ref.step ∉ w.declared := by simp [h.mem_declared, ho]
    cases hcheck with
    | undeclared => exact Or.inr ⟨_, _, rfl, rfl, h.labels ▸ .undeclared⟩
    | outOfRange hd' | taken hd' | free hd' => exact absurd hd' hd
  | @outOfRange handles ho hi =>
    have hd : ref.step ∈ w.declared := h.mem_declared.mpr ⟨_, ho⟩
    have hlen := h.length _ _ ho
    cases hcheck with
    | undeclared hd' => exact absurd hd hd'
    | outOfRange _ n ha _ =>
      obtain rfl : handles.length = n := hlen.trans (hf.known n ha)
      have he := Resolver.outOfBounds_of_hasText htext handles.length user
      exact Or.inr ⟨_, _, rfl, by rw [he], .outOfRange _⟩
    | taken _ hr | free _ hr => exact absurd (hf.inRange_iff.mp hr) (by omega)
  | @taken handles ho hi mover hm =>
    have hd : ref.step ∈ w.declared := h.mem_declared.mpr ⟨_, ho⟩
    have hrange := hf.inRange_iff.mpr (h.length _ _ ho ▸ hi)
    rw [Resolver.mover?, h.moved] at hm
    cases hcheck with
    | undeclared hd' => exact absurd hd hd'
    | outOfRange _ n ha hn => exact absurd (hrange n ha) (Nat.not_lt.mpr hn)
    | taken _ _ mover' hm' =>
      obtain rfl := Option.some.inj (hm.symm.trans hm')
      exact Or.inr ⟨_, _, rfl, rfl, .taken _⟩
    | free _ _ hm' => cases hm.symm.trans hm'
  | @given handles ho hd hi hm =>
    have hd' : ref.step ∈ w.declared := h.mem_declared.mpr ⟨_, ho⟩
    have hrange := hf.inRange_iff.mpr (h.length _ _ ho ▸ (List.getElem?_eq_some_iff.mp hi).1)
    rw [Resolver.mover?, h.moved] at hm
    cases hcheck with
    | undeclared hd'' => exact absurd hd' hd''
    | outOfRange _ n ha hn => exact absurd (hrange n ha) (Nat.not_lt.mpr hn)
    | taken _ _ mover hm' => cases hm.symm.trans hm'
    | free => exact Or.inl ⟨rfl, _, rfl⟩

/-- One argument: both pass it and agree again, or it is a reference at which both object. -/
theorem checkArg_resolveArg (user : String) {a : Arg} (h : Agrees outputs w r)
    (ha : a.isTellable = true)
    (hd : ∀ v, a = .literal v → ∃ x, decodeLiteral v = .ok x)
    (hf : ∀ ref, a = .ref ref → Fits arity outputs ref) :
    (∃ w₁ x r₁, checkArg arity user a w = .ok (none, w₁) ∧ r.resolveArg a user = (.ok x, r₁) ∧
      Agrees outputs w₁ r₁ ∧ w₁.declared = w.declared) ∨
    ∃ ref issue e, a = .ref ref ∧ checkArg arity user a w = .ok (some issue, w) ∧
      r.resolveArg a user = (.error e, r) ∧ SameFault user ref w.declared issue e := by
  cases a with
  | signer => exact Or.inl ⟨w, _, r, rfl, rfl, h, rfl⟩
  | literal v =>
    obtain ⟨x, hx⟩ := hd v rfl
    exact Or.inl ⟨w, .value x, r, rfl, by rw [Resolver.resolveArg, hx], h, rfl⟩
  | ref ref =>
    have hcheck := checkArg_eq_ok arity user w ha
    rw [Arg.ref?, Option.elim_some] at hcheck
    rcases checkRef_resolveRef user h (hf ref rfl) ha with
      ⟨hc, handle, hr⟩ | ⟨issue, e, hc, hr, hs⟩
    · exact Or.inl ⟨w.pass user ref, .handle handle, r.pass user ref, by rw [hcheck, hc],
        by rw [Resolver.resolveArg, hr], h.pass user ref, rfl⟩
    · exact Or.inr ⟨ref, issue, e, rfl, by rw [hcheck, hc], by rw [Resolver.resolveArg, hr], hs⟩
  | strayRef | foreign => cases ha

/-! ## The arguments of a step -/

theorem resolveArgs_cons_of_ok {a : Arg} {rest : List Arg} {x : Resolved} {r₁ : Resolver}
    {result : Except Error (List Resolved) × Resolver}
    (hx : r.resolveArg a user = (.ok x, r₁)) (hrest : r₁.resolveArgs user rest = result) :
    r.resolveArgs user (a :: rest) = (result.1.map (x :: ·), result.2) := by
  rw [Resolver.resolveArgs, hx]
  obtain ⟨out, r₂⟩ := result
  cases out <;> simp [hrest, Except.map]

/-- What can come of the arguments of a step: both pass them all and agree again, or both pass those
before a reference and object to it. -/
inductive ArgsAgree (arity : String → Option Nat) (outputs : String → Nat) (user : String)
    (w : RefWalk) (r : Resolver) (args : List Arg) : Prop where
  | pass {w' : RefWalk} {xs : List Resolved} {r' : Resolver}
      (hc : checkArgs arity user args w = .ok ([], w'))
      (hr : r.resolveArgs user args = (.ok xs, r')) (h : Agrees outputs w' r')
      (hd : w'.declared = w.declared)
  | fault {done rest : List Arg} {ref : Ref} {issue : Issue} {e : Error} {later : List Finding}
      {w' w₁ : RefWalk} {xs : List Resolved} {r' r₁ : Resolver}
      (hargs : args = done ++ .ref ref :: rest)
      (hc : checkArgs arity user args w = .ok (⟨user, issue⟩ :: later, w'))
      (hr : r.resolveArgs user args = (.error e, r'))
      (hs : SameFault user ref w.declared issue e)
      (hcdone : checkArgs arity user done w = .ok ([], w₁))
      (hrdone : r.resolveArgs user done = (.ok xs, r₁))

/-- The check of the arguments of a step agrees with their resolution, up to the first fault. -/
theorem checkArgs_resolveArgs (user : String) {args : List Arg} (h : Agrees outputs w r)
    (hp : ∀ a ∈ args, a.isTellable = true)
    (hd : ∀ v, .literal v ∈ args → ∃ x, decodeLiteral v = .ok x)
    (hf : ∀ ref, .ref ref ∈ args → Fits arity outputs ref) :
    ArgsAgree arity outputs user w r args := by
  induction args generalizing w r with
  | nil => exact .pass rfl rfl h rfl
  | cons a rest ih =>
    have ha := hp a List.mem_cons_self
    rcases checkArg_resolveArg user h ha (fun v hv => hd v (by simp [hv]))
      (fun ref hr => hf ref (by simp [hr])) with
      ⟨w₁, x, r₁, hc, hr, h₁, hdecl⟩ | ⟨ref, issue, e, rfl, hc, hr, hs⟩
    · have hrest := ih h₁ (fun b hb => hp b (List.mem_cons_of_mem a hb))
        (fun v hv => hd v (List.mem_cons_of_mem a hv))
        (fun ref hr => hf ref (List.mem_cons_of_mem a hr))
      cases hrest with
      | pass hc' hr' h' hdecl' =>
        exact .pass (checkArgs_cons_eq_ok_iff.mpr ⟨none, w₁, [], hc, hc', rfl⟩)
          (resolveArgs_cons_of_ok hr hr') h' (hdecl'.trans hdecl)
      | fault hargs hc' hr' hs hcdone hrdone =>
        refine .fault (congrArg (a :: ·) hargs)
          (checkArgs_cons_eq_ok_iff.mpr ⟨none, w₁, _, hc, hc', rfl⟩)
          (resolveArgs_cons_of_ok hr hr') (hdecl ▸ hs)
          (checkArgs_cons_eq_ok_iff.mpr ⟨none, w₁, [], hc, hcdone, rfl⟩)
          (resolveArgs_cons_of_ok hr hrdone)
    · obtain ⟨later, w', hlater⟩ := exists_checkArgs_eq_ok arity user
        (fun b hb => hp b (List.mem_cons_of_mem (.ref ref) hb)) w
      have hnil : r.resolveArgs user [] = (.ok [], r) := rfl
      exact .fault rfl (checkArgs_cons_eq_ok_iff.mpr ⟨some issue, w, later, hc, hlater, rfl⟩)
        (by rw [Resolver.resolveArgs, hr]) hs rfl hnil

/-! ## The steps of a graph -/

/-- What the steps need for both to go through them: labels that are new and distinct, arguments that
mean something, and as many outputs as references may count on. -/
structure Passable (arity : String → Option Nat) (outputs : String → Nat) (declared : List String)
    (steps : List Step) : Prop where
  nodup : (declared ++ steps.map Step.label).Nodup
  proper : ∀ s ∈ steps, ∀ a ∈ s.args, a.isTellable = true
  decodable : ∀ s ∈ steps, ∀ v, .literal v ∈ s.args → ∃ x, decodeLiteral v = .ok x
  fits : ∀ s ∈ steps, ∀ ref, .ref ref ∈ s.args → Fits arity outputs ref

namespace Passable

variable {declared : List String} {s : Step} {rest : List Step}

theorem args (h : Passable arity outputs declared (s :: rest)) (hw : Agrees outputs w r) :
    ArgsAgree arity outputs s.label w r s.args :=
  checkArgs_resolveArgs s.label hw (h.proper s List.mem_cons_self)
    (h.decodable s List.mem_cons_self) (h.fits s List.mem_cons_self)

theorem tail (h : Passable arity outputs declared (s :: rest)) :
    Passable arity outputs (declared ++ [s.label]) rest where
  nodup := by simpa using h.nodup
  proper t ht := h.proper t (List.mem_cons_of_mem s ht)
  decodable t ht := h.decodable t (List.mem_cons_of_mem s ht)
  fits t ht := h.fits t (List.mem_cons_of_mem s ht)

theorem label_not_mem (h : Passable arity outputs declared (s :: rest)) : s.label ∉ declared := by
  intro hm
  exact (List.nodup_append.mp h.nodup).2.2 _ hm _ (by simp) rfl

end Passable

theorem resolveStep_of_ok {s : Step} {xs : List Resolved}
    (h : r.resolveArgs s.label s.args = (.ok xs, r')) :
    r.resolveStep s = (.ok ⟨s.label, s.function, s.typeArguments, xs⟩, r') := by
  rw [Resolver.resolveStep, h]

theorem resolveStep_of_error {s : Step} {e : Error}
    (h : r.resolveArgs s.label s.args = (.error e, r')) : r.resolveStep s = (.error e, r') := by
  rw [Resolver.resolveStep, h]

variable {count : Step → Except Error Nat} {call : Nat}

/-- A step that is resolved comes before what the others are resolved to. -/
theorem resolveSteps_cons_of_ok {s : Step} {rest : List Step} {c : ResolvedCall} {n : Nat}
    {result : Except Error (List ResolvedCall) × Resolver} (hs : r.resolveStep s = (.ok c, r'))
    (hn : count s = .ok n)
    (hrest : resolveSteps count (r'.record s.label (placeholders call n)) (call + 1) rest = result) :
    resolveSteps count r call (s :: rest) = (result.1.map (c :: ·), result.2) := by
  rw [resolveSteps, hs]
  obtain ⟨out, r₂⟩ := result
  cases out <;> simp [hn, hrest, Except.map]

@[simp] theorem length_placeholders (call n : Nat) : (placeholders call n).length = n := by
  simp [placeholders]

/-- What can come of steps: both pass them all, or both pass everything before a reference and object
to it. -/
inductive StepsAgree (arity : String → Option Nat) (count : Step → Except Error Nat)
    (w : RefWalk) (r : Resolver) (call : Nat) (steps : List Step) : Prop where
  | pass {calls : List ResolvedCall} {r' : Resolver} (hc : checkRefsFrom arity steps w = .ok [])
      (hr : resolveSteps count r call steps = (.ok calls, r'))
  | fault {before after : List Step} {s : Step} {done rest : List Arg} {ref : Ref} {issue : Issue}
      {e : Error} {later : List Finding} {calls : List ResolvedCall} {r' r₁ : Resolver}
      (hsteps : steps = before ++ s :: after) (hargs : s.args = done ++ .ref ref :: rest)
      (hc : checkRefsFrom arity steps w = .ok (⟨s.label, issue⟩ :: later))
      (hr : resolveSteps count r call steps = (.error e, r'))
      (hs : SameFault s.label ref (w.declared ++ before.map Step.label) issue e)
      (hcdone : checkRefsFrom arity (before ++ [{ s with args := done }]) w = .ok [])
      (hrdone : resolveSteps count r call (before ++ [{ s with args := done }]) = (.ok calls, r₁))

/-- The check of steps agrees with their resolution, one after the other. -/
theorem checkRefsFrom_resolveSteps (call : Nat) {steps : List Step} (h : Agrees outputs w r)
    (hp : Passable arity outputs w.declared steps)
    (hcount : ∀ s ∈ steps, ∀ args, count { s with args } = .ok (outputs s.label)) :
    StepsAgree arity count w r call steps := by
  induction steps generalizing w r call with
  | nil => exact .pass rfl rfl
  | cons s rest ih =>
    have hn : count s = .ok (outputs s.label) := hcount s List.mem_cons_self s.args
    cases hp.args h with
    -- both pass the step and record it: what comes of the rest comes of the whole
    | @pass w₁ xs r₁ hc hr h₁ hd =>
      have hstep := resolveStep_of_ok hr
      have hnew : s.label ∉ w₁.declared := by rw [hd]; exact hp.label_not_mem
      have hnext := h₁.record hnew (length_placeholders call (outputs s.label))
      have hrest := ih (call + 1) hnext (by rw [hd]; exact hp.tail)
        fun t ht => hcount t (List.mem_cons_of_mem s ht)
      cases hrest with
      | pass hc' hr' =>
        exact .pass (checkRefsFrom_cons_eq_ok_iff.mpr ⟨[], w₁, [], hc, hc', rfl⟩)
          (resolveSteps_cons_of_ok hstep hn hr')
      | @fault before after t done _ _ _ _ _ _ _ _ hsteps hargs hc' hr' hs hcdone hrdone =>
        have hsteps' : s :: rest = (s :: before) ++ t :: after := congrArg (s :: ·) hsteps
        have hcdone' : checkRefsFrom arity ((s :: before) ++ [{ t with args := done }]) w = .ok [] :=
          checkRefsFrom_cons_eq_ok_iff.mpr ⟨[], w₁, [], hc, hcdone, rfl⟩
        exact .fault hsteps' hargs (checkRefsFrom_cons_eq_ok_iff.mpr ⟨[], w₁, _, hc, hc', rfl⟩)
          (resolveSteps_cons_of_ok hstep hn hr') (by simpa [hd] using hs) hcdone'
          (resolveSteps_cons_of_ok hstep hn hrdone)
    -- the first finding is in this step: the walk goes on to the end, the resolver does not
    | @fault done rest' ref issue e later w₁ w₂ xs r₁ r₂ hargs hc hr hs hcdone hrdone =>
      obtain ⟨findings, hfindings⟩ := exists_checkRefsFrom_eq_ok arity
        (fun t ht => hp.proper t (List.mem_cons_of_mem s ht))
        { w₁ with declared := w₁.declared ++ [s.label] }
      have hsteps : s :: rest = [] ++ s :: rest := rfl
      have hcdone' : checkRefsFrom arity ([] ++ [{ s with args := done }]) w = .ok [] :=
        checkRefsFrom_cons_eq_ok_iff.mpr ⟨[], w₂, [], hcdone, rfl, rfl⟩
      have hdone : r.resolveStep { s with args := done } = (.ok _, r₂) := resolveStep_of_ok hrdone
      exact .fault hsteps hargs
        (checkRefsFrom_cons_eq_ok_iff.mpr ⟨_, w₁, findings, hc, hfindings, rfl⟩)
        (by rw [resolveSteps, resolveStep_of_error hr]) (by simpa using hs) hcdone'
        (resolveSteps_cons_of_ok hdone (hcount s List.mem_cons_self done) rfl)

/-! ## Graphs -/

/-- The number of a step's outputs by the signature of its function, and where none is known as many
as the references to the step ask for. -/
def arityBy (g : StepGraph) (signatures : Signatures) (s : Step) : Nat :=
  ((signatures.lookup s.function.text).map Abi.Signature.arity).getD (g.demandedArity s.label)

variable {g : StepGraph}

/-- The steps of a graph can be walked through on both sides. -/
theorem passable_of_graph (hg : g.IsProper) (hd : g.IsDecodable) (signatures : Signatures) :
    Passable (arityIn g signatures)
      (fun l => (arityIn g signatures l).getD (g.demandedArity l)) [] g.steps where
  nodup := g.nodup_labels
  proper := hg
  decodable := hd
  fits s hs ref href :=
    ⟨fun n hn => by simp [hn], fun hn => by
      rw [hn, Option.getD_none]
      exact StepGraph.lt_demandedArity hs (Step.mem_refs_iff.mpr href)⟩

/-- The check and the resolution agree on a graph. -/
theorem stepsAgree_of_graph (hg : g.IsProper) (hd : g.IsDecodable) (signatures : Signatures)
    (signer : Int) :
    StepsAgree (arityIn g signatures) (fun s => .ok (arityBy g signatures s)) {} { signer } 0
      g.steps :=
  checkRefsFrom_resolveSteps 0 (.nil _ signer) (passable_of_graph hg hd signatures)
    fun s hs args => by rw [arityBy, arityIn_label hs]

/-- A graph whose references have no finding is resolved. -/
theorem exists_resolveAll_eq_ok (hg : g.IsProper) (hd : g.IsDecodable) {signatures : Signatures}
    (h : checkRefs g signatures = .ok []) (signer : Int) :
    ∃ calls r, g.resolveAll (fun s => .ok (arityBy g signatures s)) signer = (.ok calls, r) := by
  cases stepsAgree_of_graph hg hd signatures signer with
  | pass hc hr => exact ⟨_, _, hr⟩
  | fault _ _ hc =>
    rw [checkRefs, hc] at h
    cases h

/-- **The check of the references and the resolver are the same judgement.** With as many outputs for
each step as its signature tells, or else as are asked for, a graph resolves exactly when its check
has no finding. If it has one, the resolver fails at the reference of the first finding, for the same
reason and for the same step, and both pass everything before that reference. -/
theorem checkRefs_judges_like_resolve (hg : g.IsProper) (hd : g.IsDecodable)
    (signatures : Signatures) (signer : Int) :
    (∃ findings, checkRefs g signatures = .ok findings) ∧
    (checkRefs g signatures = .ok [] ↔
      ∃ calls, g.resolve (fun s => .ok (arityBy g signatures s)) signer = .ok calls) ∧
    ∀ f later, checkRefs g signatures = .ok (f :: later) →
      ∃ p s ref e, g.steps[p.step]? = some s ∧ s.args[p.arg]? = some (.ref ref) ∧
        f.step = s.label ∧
        g.resolve (fun s => .ok (arityBy g signatures s)) signer = .error e ∧
        SameFault s.label ref (g.labels.take p.step) f.issue e ∧
        checkRefsFrom (arityIn g signatures) (g.upTo p) {} = .ok [] ∧
        ∃ calls r, resolveSteps (fun s => .ok (arityBy g signatures s)) { signer } 0 (g.upTo p) =
          (.ok calls, r) := by
  refine ⟨exists_checkRefs_eq_ok hg signatures, ?_⟩
  cases stepsAgree_of_graph hg hd signatures signer with
  | pass hc hr =>
    have hresolve : g.resolve (fun s => .ok (arityBy g signatures s)) signer = .ok _ :=
      congrArg Prod.fst hr
    refine ⟨iff_of_true hc ⟨_, hresolve⟩, fun f later hfl => ?_⟩
    rw [checkRefs, hc] at hfl
    cases hfl
  | @fault before after s done rest ref issue e later calls r' r₁ hsteps hargs hc hr hs hcdone
      hrdone =>
    have hresolve : g.resolve (fun s => .ok (arityBy g signatures s)) signer = .error e :=
      congrArg Prod.fst hr
    have hstep : g.steps[before.length]? = some s := by simp [hsteps]
    have harg : s.args[done.length]? = some (.ref ref) := by simp [hargs]
    have hupto : g.upTo ⟨before.length, done.length⟩ = before ++ [{ s with args := done }] := by
      simp [StepGraph.upTo, hsteps, hargs]
    refine ⟨iff_of_false ?_ ?_, fun f later' hfl => ?_⟩
    · rw [checkRefs, hc]
      exact fun h => by cases h
    · rw [hresolve]
      rintro ⟨calls, h⟩
      cases h
    · rw [checkRefs, hc, Except.ok.injEq, List.cons.injEq] at hfl
      obtain ⟨rfl, -⟩ := hfl
      refine ⟨⟨before.length, done.length⟩, s, ref, e, hstep, harg, rfl, hresolve, ?_, ?_, ?_⟩
      · simpa [StepGraph.labels, hsteps] using hs
      · rw [hupto, hcdone]
      · exact ⟨calls, r₁, by rw [hupto, hrdone]⟩

/-- A graph in which one step moves an output and uses it again; the signatures are not known. -/
def twiceUsed : StepGraph where
  steps := [
    { label := "take", function := default, args := [.signer, .literal (.str "5n")] },
    { label := "pay", function := default,
      args := [.ref ⟨"take", 0, .move⟩, .ref ⟨"take", 0, .copy⟩] }]

theorem isProper_twiceUsed : twiceUsed.IsProper := by
  simp [StepGraph.IsProper, twiceUsed, Arg.isTellable]

theorem isDecodable_twiceUsed : twiceUsed.IsDecodable := by
  simp only [StepGraph.IsDecodable, twiceUsed, List.forall_mem_cons]
  refine ⟨fun v hv => ?_, by simp⟩
  obtain rfl : v = .str "5n" := by simpa using hv
  exact ⟨_, rfl⟩

theorem checkRefs_judges_like_resolve_twiceUsed :
    twiceUsed.IsProper ∧ twiceUsed.IsDecodable ∧
      ∃ (p : Place) (s : Step) (ref : Ref) (e : Error),
        twiceUsed.steps[p.step]? = some s ∧ s.args[p.arg]? = some (.ref ref) ∧ "pay" = s.label ∧
        twiceUsed.resolve (fun s => .ok (arityBy twiceUsed [] s)) 0 = .error e ∧
        SameFault s.label ref (twiceUsed.labels.take p.step) (.repeatedMove "take" 0 .copy "pay")
          e := by
  obtain ⟨p, s, ref, e, hs, hr, hlabel, he, hf, -⟩ :=
    (checkRefs_judges_like_resolve isProper_twiceUsed isDecodable_twiceUsed [] 0).2.2
      ⟨"pay", .repeatedMove "take" 0 .copy "pay"⟩ [] rfl
  exact ⟨isProper_twiceUsed, isDecodable_twiceUsed, p, s, ref, e, hs, hr, hlabel, he, hf⟩

end MovePlan.Validation
