import MovePlan.Proofs.Graph.Resolver

/-!
# What a resolver hands out

A resolver may be asked to record outputs, to resolve one argument, or to resolve a step, in any
order; requests may fail, and a label may be recorded again. Whatever it is asked, all that reaches it
is a row of recordings and of single arguments, its trials: a step puts its arguments to the resolver
one after the other, up to the first that fails. `Passes` is such a row.

A row adds to the moves what its trials take away, and nothing else (`Passes.moved_eq`). So an output
that was taken away has its mover for good (`Passes.mover?_of_mem`), and every later reference to it
fails (`Passes.pairwise`). Recordings do not touch the moves: an output that is recorded again does not
come back.
-/

namespace MovePlan.Resolver

open Graph

/-! ## Requests and trials -/

/-- What a resolver may be asked. -/
inductive Request where
  | record (label : String) (handles : List Handle)
  | arg (a : Arg) (user : String)
  | step (s : Step)

/-- The resolver after a request, whether the request failed or not. -/
def ask (r : Resolver) : Request → Resolver
  | .record label handles => r.record label handles
  | .arg a user => (r.resolveArg a user).2
  | .step s => (r.resolveStep s).2

/-- The resolver after requests in a row. -/
def askAll (r : Resolver) (requests : List Request) : Resolver := requests.foldl ask r

/-- An argument that is put to a resolver for the step `user`. -/
structure Trial where
  before : Resolver
  arg : Arg
  user : String

namespace Trial

def result (t : Trial) : Except Error Resolved := (t.before.resolveArg t.arg t.user).1

/-- The resolver after the trial. -/
def after (t : Trial) : Resolver := (t.before.resolveArg t.arg t.user).2

/-- The output that a trial takes away: the target of a moving reference that is resolved. -/
def moved? (t : Trial) : Option (String × Nat) :=
  match t.arg, t.result with
  | .ref ref, .ok _ => if ref.mode = .move then some ref.target else none
  | _, _ => none

end Trial

/-- The trials that resolving arguments takes: one for each, up to the first that fails. -/
def trialsOfArgs (r : Resolver) (user : String) : List Arg → List Trial
  | [] => []
  | a :: rest =>
    ⟨r, a, user⟩ ::
      match r.resolveArg a user with
      | (.ok _, r) => r.trialsOfArgs user rest
      | (.error _, _) => []

/-- The trials that a request takes. -/
def trialsOf (r : Resolver) : Request → List Trial
  | .record .. => []
  | .arg a user => [⟨r, a, user⟩]
  | .step s => r.trialsOfArgs s.label s.args

/-- The trials that requests in a row take. -/
def trials (r : Resolver) : List Request → List Trial
  | [] => []
  | q :: rest => r.trialsOf q ++ (r.ask q).trials rest

/-- The handles that a request records under a label. -/
def Request.recorded? (label : String) : Request → Option (List Handle)
  | .record l handles => if label = l then some handles else none
  | .arg .. | .step _ => none

/-- The handles that were recorded last under a label. -/
def lastRecorded? (label : String) (requests : List Request) : Option (List Handle) :=
  requests.reverse.findSome? (Request.recorded? label)

variable {r r' r'' : Resolver} {user : String} {t : Trial} {ts us : List Trial}
  {target : String × Nat} {mover : String}

/-! ## One trial -/

/-- A trial adds what it takes away to the moves, and changes nothing else. -/
theorem Trial.after_eq (t : Trial) :
    t.after = { t.before with moved := t.before.moved ++ (t.moved?.map (·, t.user)).toList } := by
  obtain ⟨r, a, user⟩ := t
  cases a with
  | signer => simp [Trial.after, Trial.moved?, resolveArg]
  | literal v =>
    simp only [Trial.after, Trial.moved?, resolveArg]
    split <;> simp
  | ref ref =>
    have hcase := resolveCase_resolveRef r ref user
    simp only [Trial.after, Trial.moved?, Trial.result, resolveArg]
    generalize r.resolveRef ref user = out at hcase ⊢
    cases hcase with
    | unknown | outOfRange | taken => simp
    | given ho hi hm =>
      by_cases hmode : ref.mode = .move <;> simp [pass, movesOf, hmode]
  | strayRef step => cases step <;> simp [Trial.after, Trial.moved?, resolveArg]
  | foreign => simp [Trial.after, Trial.moved?, resolveArg]

/-- What is taken away was not gone before. -/
theorem Trial.mover?_of_moved? (h : t.moved? = some target) :
    ∃ ref, t.arg = .ref ref ∧ ref.target = target ∧ t.before.mover? target = none := by
  obtain ⟨r, a, user⟩ := t
  unfold Trial.moved? at h
  split at h
  next ref x harg hresult =>
    obtain rfl : a = .ref ref := harg
    split at h
    next hmode =>
      obtain rfl := Option.some.inj h
      refine ⟨ref, rfl, rfl, ?_⟩
      have hcase := resolveCase_resolveRef r ref user
      simp only [Trial.result, resolveArg] at hresult
      generalize r.resolveRef ref user = out at hcase hresult
      cases hcase with
      | unknown | outOfRange | taken => cases hresult
      | given ho hi hm => exact hm
    next => cases h
  next => cases h

/-- A reference to an output that is gone fails, and names who moved it if the output is recorded. -/
theorem Trial.result_of_mover? {ref : Ref} (harg : t.arg = .ref ref)
    (h : t.before.mover? ref.target = some mover) :
    (∃ e, t.result = .error e) ∧
      ∀ handles, t.before.outputs? ref.step = some handles → ref.index < handles.length →
        t.result = .error (.alreadyMoved ref.step ref.index mover t.user) := by
  obtain ⟨r, a, user⟩ := t
  obtain rfl : a = .ref ref := harg
  have hcase := resolveCase_resolveRef r ref user
  simp only [Trial.result, resolveArg]
  generalize r.resolveRef ref user = out at hcase ⊢
  cases hcase with
  | unknown ho => exact ⟨⟨_, rfl⟩, fun handles hh => by simp [ho] at hh⟩
  | outOfRange ho hi =>
    refine ⟨⟨_, rfl⟩, fun handles hh hlt => ?_⟩
    obtain rfl := Option.some.inj (ho.symm.trans hh)
    omega
  | taken ho hi hm =>
    obtain rfl := Option.some.inj (hm.symm.trans h)
    exact ⟨⟨_, rfl⟩, fun _ _ _ => rfl⟩
  | given ho hi hm =>
    rw [hm] at h
    cases h

/-- **Arguments are resolved to what their trials give**, or fail as the first of them that fails. -/
theorem resolveArgs_eq_mapM (r : Resolver) (user : String) (args : List Arg) :
    (r.resolveArgs user args).1 = (r.trialsOfArgs user args).mapM Trial.result := by
  induction args generalizing r with
  | nil => rfl
  | cons a rest ih =>
    rw [resolveArgs, trialsOfArgs, List.mapM_cons, Trial.result]
    generalize r.resolveArg a user = out
    obtain ⟨result, r₁⟩ := out
    cases result with
    | error e => rfl
    | ok x =>
      simp only [← ih r₁]
      generalize r₁.resolveArgs user rest = out
      obtain ⟨results, r₂⟩ := out
      cases results <;> rfl

/-! ## Rows of trials -/

/-- A resolver comes to be another one by recordings and the given trials. -/
inductive Passes : Resolver → List Trial → Resolver → Prop where
  | refl (r : Resolver) : Passes r [] r
  | record {r r' : Resolver} {ts : List Trial} (label : String) (handles : List Handle)
      (h : Passes (r.record label handles) ts r') : Passes r ts r'
  | trial {r' : Resolver} {ts : List Trial} (t : Trial) (h : Passes t.after ts r') :
    Passes t.before (t :: ts) r'

theorem Passes.trans (h : Passes r ts r') (h' : Passes r' us r'') : Passes r (ts ++ us) r'' := by
  induction h with
  | refl => exact h'
  | record label handles _ ih => exact .record label handles (ih h')
  | trial t _ ih => exact .trial t (ih h')

theorem passes_resolveArgs (r : Resolver) (user : String) (args : List Arg) :
    Passes r (r.trialsOfArgs user args) (r.resolveArgs user args).2 := by
  induction args generalizing r with
  | nil => exact .refl r
  | cons a rest ih =>
    refine .trial ⟨r, a, user⟩ ?_
    rw [Trial.after, resolveArgs]
    generalize r.resolveArg a user = out
    obtain ⟨result, r₁⟩ := out
    cases result with
    | error e => exact .refl r₁
    | ok x =>
      have hrest := ih r₁
      dsimp only
      generalize r₁.resolveArgs user rest = out at hrest ⊢
      obtain ⟨results, r₂⟩ := out
      cases results <;> exact hrest

theorem resolveStep_eq (r : Resolver) (s : Step) : r.resolveStep s =
    ((r.resolveArgs s.label s.args).1.map fun args => ⟨s.label, s.function, s.typeArguments, args⟩,
      (r.resolveArgs s.label s.args).2) := by
  rw [resolveStep]
  split <;> simp [*, Except.map]

theorem passes_ask (r : Resolver) (q : Request) : Passes r (r.trialsOf q) (r.ask q) := by
  cases q with
  | record label handles => exact .record label handles (.refl _)
  | arg a user => exact .trial ⟨r, a, user⟩ (.refl _)
  | step s =>
    rw [ask, resolveStep_eq]
    exact passes_resolveArgs r s.label s.args

theorem passes_askAll (r : Resolver) (requests : List Request) :
    Passes r (r.trials requests) (r.askAll requests) := by
  induction requests generalizing r with
  | nil => exact .refl r
  | cons q rest ih => exact (passes_ask r q).trans (ih (r.ask q))

/-- **What a row adds to the moves is what its trials take away.** -/
theorem Passes.moved_eq (h : Passes r ts r') :
    r'.moved = r.moved ++ ts.filterMap fun t => t.moved?.map (·, t.user) := by
  induction h with
  | refl => simp
  | record label handles _ ih => exact ih
  | trial t _ ih =>
    rw [ih, Trial.after_eq]
    cases ht : t.moved? <;> simp [ht]

theorem Passes.consumed_eq (h : Passes r ts r') :
    r'.consumed = r.consumed ++ ts.filterMap Trial.moved? := by
  rw [consumed, h.moved_eq, List.map_append, List.map_filterMap]
  simp [consumed, Function.comp_def]

/-- **An output that is gone stays gone**, and its mover is remembered. -/
theorem Passes.mover?_of_mem (h : Passes r ts r') (hm : r.mover? target = some mover)
    (ht : t ∈ ts) : t.before.mover? target = some mover := by
  induction h with
  | refl => cases ht
  | record label handles _ ih => exact ih hm ht
  | trial u _ ih =>
    rcases List.mem_cons.mp ht with rfl | ht
    · exact hm
    · refine ih ?_ ht
      rw [Trial.after_eq]
      simp only [mover?, List.lookup_append] at hm ⊢
      rw [hm, Option.some_or]

/-- A trial is remembered as the one that took its output away. -/
theorem Trial.mover?_after (h : t.moved? = some target) :
    t.after.mover? target = some t.user := by
  obtain ⟨-, -, -, hnone⟩ := Trial.mover?_of_moved? h
  rw [Trial.after_eq, h]
  simp only [mover?] at hnone ⊢
  simp [List.lookup_append, hnone]

/-- **After an output was taken away, every trial finds it gone.** -/
theorem Passes.pairwise (h : Passes r ts r') :
    ts.Pairwise fun t u => ∀ target, t.moved? = some target →
      u.before.mover? target = some t.user := by
  induction h with
  | refl => exact .nil
  | record _ _ _ ih => exact ih
  | trial t hrest ih =>
    refine .cons (fun u hu target htarget => ?_) ih
    exact hrest.mover?_of_mem (Trial.mover?_after htarget) hu

/-! ## Arguments that fail -/

theorem Trial.moved?_of_error {e : Error} (h : t.result = .error e) : t.moved? = none := by
  rw [Trial.moved?, h]
  split <;> simp_all

/-- An argument that fails leaves the resolver as it was. -/
theorem resolveArg_eq_error {a : Arg} {e : Error} (h : r.resolveArg a user = (.error e, r')) :
    r' = r := by
  have hresult : (Trial.mk r a user).result = .error e := congrArg Prod.fst h
  have hafter := Trial.after_eq ⟨r, a, user⟩
  rw [Trial.moved?_of_error hresult] at hafter
  simpa [Trial.after, h] using hafter

/-- Arguments of which one fails are resolved up to that one. -/
theorem resolveArgs_eq_error {args : List Arg} {e : Error}
    (h : r.resolveArgs user args = (.error e, r')) :
    ∃ k a xs, args[k]? = some a ∧ r.resolveArgs user (args.take k) = (.ok xs, r') ∧
      r'.resolveArg a user = (.error e, r') := by
  induction args generalizing r with
  | nil => cases h
  | cons a rest ih =>
    rw [resolveArgs] at h
    split at h
    next e' r₁ ha =>
      cases h
      obtain rfl := resolveArg_eq_error ha
      exact ⟨0, a, [], rfl, rfl, ha⟩
    next x r₁ ha =>
      split at h
      next e' r₂ hrest =>
        cases h
        obtain ⟨k, b, xs, hb, hbefore, hfail⟩ := ih hrest
        refine ⟨k + 1, b, x :: xs, hb, ?_, hfail⟩
        rw [List.take_succ_cons, resolveArgs, ha]
        simp only [hbefore]
      next => cases h

/-! ## What is recorded -/

theorem lookup_setOutputs (label l : String) (handles : List Handle)
    (outputs : List (String × List Handle)) :
    (setOutputs label handles outputs).lookup l =
      if l = label then some handles else outputs.lookup l := by
  induction outputs with
  | nil => by_cases hl : l = label <;> simp [setOutputs, List.lookup_cons, hl, beq_false_of_ne]
  | cons o rest ih =>
    obtain ⟨k, v⟩ := o
    by_cases hk : k = label
    · subst hk
      by_cases hl : l = k <;> simp [setOutputs, List.lookup_cons, hl, beq_false_of_ne]
    · by_cases hl : l = k
      · subst hl
        simp [setOutputs, hk]
      · simp [setOutputs, List.lookup_cons, hk, beq_false_of_ne hl, ih]

theorem outputs_resolveArgs (r : Resolver) (user : String) (args : List Arg) :
    (r.resolveArgs user args).2.outputs = r.outputs := by
  rcases h : r.resolveArgs user args with ⟨_ | xs, r'⟩
  · obtain ⟨k, a, xs, -, hbefore, -⟩ := resolveArgs_eq_error h
    obtain ⟨-, rfl⟩ := resolveArgs_eq_ok hbefore
    rfl
  · obtain ⟨-, rfl⟩ := resolveArgs_eq_ok h
    rfl

theorem outputs?_ask (r : Resolver) (q : Request) (label : String) :
    (r.ask q).outputs? label = (q.recorded? label).or (r.outputs? label) := by
  cases q with
  | record l handles =>
    have hlookup : (r.ask (.record l handles)).outputs? label =
        if label = l then some handles else r.outputs? label :=
      lookup_setOutputs l label handles r.outputs
    rw [hlookup, Request.recorded?]
    split <;> rfl
  | arg a user =>
    have hafter : r.ask (.arg a user) = (Trial.mk r a user).after := rfl
    rw [hafter, Trial.after_eq]
    rfl
  | step s =>
    have houtputs : (r.ask (.step s)).outputs = r.outputs := by
      rw [ask, resolveStep_eq, outputs_resolveArgs]
    rw [outputs?, houtputs]
    rfl

/-- **A label has the handles that were recorded last under it.** -/
theorem outputs?_askAll (r : Resolver) (requests : List Request) (label : String) :
    (r.askAll requests).outputs? label = (lastRecorded? label requests).or (r.outputs? label) := by
  induction requests generalizing r with
  | nil => rfl
  | cons q rest ih =>
    have hlast : lastRecorded? label (q :: rest) =
        (lastRecorded? label rest).or (q.recorded? label) := by
      rw [lastRecorded?, List.reverse_cons, List.findSome?_append, List.findSome?_singleton,
        lastRecorded?]
    have hask : r.askAll (q :: rest) = (r.ask q).askAll rest := rfl
    rw [hask, ih, outputs?_ask, hlast, Option.or_assoc]

theorem mover?_isSome_iff : (r.mover? target).isSome = true ↔ target ∈ r.consumed := by
  simp only [mover?, consumed, List.lookup_isSome_iff, List.mem_map, beq_iff_eq,
    eq_comm (a := target)]

theorem mem_remaining_iff {label : String} {i : Nat} :
    i ∈ r.remaining label ↔
      i < ((r.outputs? label).getD []).length ∧ (label, i) ∉ r.consumed := by
  rw [remaining, List.mem_filter, List.mem_range, ← mover?_isSome_iff]
  simp

/-- A step of which an argument fails takes away what the arguments before that one move, and nothing
else happens. -/
theorem resolveStep_eq_error {s : Step} {e : Error} {r r' : Resolver}
    (h : r.resolveStep s = (.error e, r')) :
    ∃ k a xs, s.args[k]? = some a ∧
      r.resolveArgs s.label (s.args.take k) = (.ok xs, r') ∧
      r'.resolveArg a s.label = (.error e, r') ∧ r'.outputs = r.outputs ∧
      r'.consumed = r.consumed ++
        (((s.args.take k).filterMap Arg.ref?).filter fun ref => ref.mode == .move).map
          Ref.target := by
  rw [resolveStep] at h
  split at h
  next e' r₁ hargs =>
    cases h
    obtain ⟨k, a, xs, ha, hbefore, hfail⟩ := resolveArgs_eq_error hargs
    refine ⟨k, a, xs, ha, hbefore, hfail, ?_⟩
    obtain ⟨-, rfl⟩ := resolveArgs_eq_ok hbefore
    exact ⟨rfl, by simp [consumed, movesOf]⟩
  next => cases h

/-- What remains of a step's outputs are those that were recorded last and are not gone. -/
theorem mem_remaining_askAll_iff {signer : Int} {requests : List Request} {label : String}
    {i : Nat} : i ∈ (askAll { signer } requests).remaining label ↔
      i < ((lastRecorded? label requests).getD []).length ∧
        (label, i) ∉ (askAll { signer } requests).consumed := by
  have houtputs := outputs?_askAll { signer } requests label
  have hfresh : ({ signer } : Resolver).outputs? label = none := rfl
  rw [hfresh, Option.or_none] at houtputs
  rw [mem_remaining_iff, houtputs]

/-! ## All requests -/

/-- Whether a resolver that is asked the requests hands no output out twice. -/
structure HandsOutOnce (signer : Int) (requests : List Request) : Prop where
  /-- A step gives what its trials give. -/
  answers : ∀ s, ((askAll { signer } requests).resolveStep s).1.map ResolvedCall.args =
    (trialsOf (askAll { signer } requests) (.step s)).mapM Trial.result
  /-- No output is taken away twice. -/
  once : (trials { signer } requests).Pairwise fun t u =>
    ∀ target, t.moved? = some target → u.moved? ≠ some target
  /-- Once an output was taken away, each later reference to it fails, and names who moved it as long
  as there is such an output. -/
  gone : (trials { signer } requests).Pairwise fun t u =>
    ∀ ref, u.arg = .ref ref → t.moved? = some ref.target →
      (∃ e, u.result = .error e) ∧
        ∀ handles, u.before.outputs? ref.step = some handles → ref.index < handles.length →
          u.result = .error (.alreadyMoved ref.step ref.index t.user u.user)
  /-- One more request adds to what is gone the outputs that it takes away, and nothing else. -/
  grows : ∀ q, (askAll { signer } (requests ++ [q])).consumed =
    (askAll { signer } requests).consumed ++
      (trialsOf (askAll { signer } requests) q).filterMap Trial.moved?
  /-- What remains of a step's outputs is in ascending order. -/
  ascending : ∀ label, ((askAll { signer } requests).remaining label).Pairwise (· < ·)
  /-- What remains are the outputs that were recorded last and are not gone. -/
  remaining : ∀ label i, i ∈ (askAll { signer } requests).remaining label ↔
    i < ((lastRecorded? label requests).getD []).length ∧
      (label, i) ∉ (askAll { signer } requests).consumed
  /-- A step of which an argument fails leaves what is recorded as it was, and takes away what the
  arguments before that one move. -/
  fails : ∀ s e r, (askAll { signer } requests).resolveStep s = (.error e, r) →
    ∃ k a xs, s.args[k]? = some a ∧
      (askAll { signer } requests).resolveArgs s.label (s.args.take k) = (.ok xs, r) ∧
      r.resolveArg a s.label = (.error e, r) ∧
      r.outputs = (askAll { signer } requests).outputs ∧
      r.consumed = (askAll { signer } requests).consumed ++
        (((s.args.take k).filterMap Arg.ref?).filter fun ref => ref.mode == .move).map Ref.target

/-- **No value is handed out twice**, whatever a resolver is asked. -/
theorem hands_out_once (signer : Int) (requests : List Request) :
    HandsOutOnce signer requests := by
  have hpasses := passes_askAll { signer } requests
  refine ⟨fun s => ?_, ?_, ?_, fun q => ?_, fun label => ?_, fun label i => ?_, fun s e r h => ?_⟩
  · rw [resolveStep_eq, trialsOf, ← resolveArgs_eq_mapM]
    cases ((askAll { signer } requests).resolveArgs s.label s.args).1 <;> rfl
  · refine hpasses.pairwise.imp fun {t u} htaken target ht hu => ?_
    obtain ⟨-, -, -, hnone⟩ := Trial.mover?_of_moved? hu
    rw [htaken target ht] at hnone
    cases hnone
  · exact hpasses.pairwise.imp fun htaken ref harg ht =>
      Trial.result_of_mover? harg (htaken _ ht)
  · have hask : askAll { signer } (requests ++ [q]) = (askAll { signer } requests).ask q := by
      rw [askAll, List.foldl_append]
      rfl
    rw [hask]
    exact (passes_ask _ q).consumed_eq
  · exact List.pairwise_lt_range.filter _
  · exact mem_remaining_askAll_iff
  · exact resolveStep_eq_error h

/-- An output that is recorded again after it was taken away does not come back. -/
example : (askAll {} [.record "a" [⟨0, 0, .move⟩], .arg (.ref ⟨"a", 0, .move⟩) "b",
    .record "a" [⟨1, 0, .move⟩, ⟨1, 1, .move⟩]]).remaining "a" = [1] := by decide

end MovePlan.Resolver
