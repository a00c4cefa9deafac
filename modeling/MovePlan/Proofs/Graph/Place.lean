import MovePlan.Graph.Basic

/-!
# Places of references

A place is the number of a step and the number of an argument in it. Places are ordered as the
arguments are met when the steps are gone through from the first: by step, then by argument. Steps
are found by their labels, of which a graph has no two alike; the references of a graph are known by
their places, and what is asked of a step by the references to it.

What adding a step can come to is said once: a draft is refused for its first field that is wrong, or the
step that it gives stands at the end (`add_cases`).
-/

namespace MovePlan

open Move Graph

namespace Graph

/-- The place of an argument. -/
structure Place where
  step : Nat
  arg : Nat
  deriving DecidableEq, Repr

namespace Place

/-- Whether a place is met before another. -/
def Before (p q : Place) : Prop := p.step < q.step ∨ (p.step = q.step ∧ p.arg < q.arg)

/-- Of two places one is before the other, unless they are one. -/
theorem before_or_eq_or_before (p q : Place) : p.Before q ∨ p = q ∨ q.Before p := by
  obtain ⟨a, b⟩ := p
  obtain ⟨c, d⟩ := q
  simp only [Before, mk.injEq]
  omega

end Place

theorem Arg.ref?_eq_some_iff {a : Arg} {r : Ref} : a.ref? = some r ↔ a = .ref r := by
  cases a <;> simp [Arg.ref?]

/-- The references of a step are those among its arguments. -/
theorem Step.mem_refs_iff {s : Step} {r : Ref} : r ∈ s.refs ↔ .ref r ∈ s.args := by
  simp [Step.refs, List.mem_filterMap, Arg.ref?_eq_some_iff]

/-- The moves among references of a step: the outputs, each with the step that moves it. -/
def movesOf (user : String) (refs : List Ref) : List ((String × Nat) × String) :=
  (refs.filter fun r => r.mode == .move).map fun r => (r.target, user)

theorem movesOf_append (user : String) (a b : List Ref) :
    movesOf user (a ++ b) = movesOf user a ++ movesOf user b := by
  simp [movesOf]

/-- An output is moved by references if one of them moves it. -/
theorem lookup_movesOf_isSome_iff {user : String} {refs : List Ref} {t : String × Nat} :
    ((movesOf user refs).lookup t).isSome = true ↔ ∃ u ∈ refs, u.target = t ∧ u.mode = .move := by
  simp only [List.lookup_isSome_iff, movesOf, List.mem_map, List.mem_filter, beq_iff_eq]
  constructor
  · rintro ⟨_, ⟨u, ⟨hu, hm⟩, rfl⟩, rfl⟩
    exact ⟨u, hu, rfl, hm⟩
  · rintro ⟨u, hu, rfl, hm⟩
    exact ⟨(u.target, user), ⟨u, ⟨hu, hm⟩, rfl⟩, rfl⟩

end Graph

namespace StepGraph

/-- Whether every argument is a signer, a literal, or a reference to a named step whose index has a
text. -/
def IsProper (g : StepGraph) : Prop := ∀ s ∈ g.steps, ∀ a ∈ s.args, a.isTellable = true

variable {g : StepGraph}

theorem IsProper.isProper (hg : g.IsProper) : ∀ s ∈ g.steps, ∀ a ∈ s.args, a.isProper = true :=
  fun s hs a ha => Arg.isProper_of_isTellable (hg s hs a ha)

/-! ## Labels -/

/-- A label stands at one place only. -/
theorem index_eq_of_label {i j : Nat} {s t : Step} (hs : g.steps[i]? = some s)
    (ht : g.steps[j]? = some t) (h : s.label = t.label) : i = j := by
  have hlabels : (g.steps.map Step.label)[i]? = (g.steps.map Step.label)[j]? := by
    simp [List.getElem?_map, hs, ht, h]
  have hi : i < (g.steps.map Step.label).length := by
    rw [List.length_map]
    exact (List.getElem?_eq_some_iff.mp hs).1
  exact (List.getElem?_inj hi g.nodup_labels).mp hlabels

/-- Two steps of a graph do not share their label. -/
theorem eq_of_label {s t : Step} (hs : s ∈ g.steps) (ht : t ∈ g.steps) (h : s.label = t.label) :
    s = t := by
  obtain ⟨i, hi⟩ := List.mem_iff_getElem?.mp hs
  obtain ⟨j, hj⟩ := List.mem_iff_getElem?.mp ht
  rw [index_eq_of_label hi hj h, hj] at hi
  exact (Option.some.inj hi).symm

/-- A step is found under its label. -/
theorem get?_eq_some_iff {l : String} {s : Step} :
    g.get? l = some s ↔ s ∈ g.steps ∧ s.label = l := by
  constructor
  · intro h
    exact ⟨List.mem_of_find?_eq_some h, by simpa using List.find?_some h⟩
  · rintro ⟨hs, rfl⟩
    cases hf : g.get? s.label with
    | none => simpa using List.find?_eq_none.mp hf s hs
    | some t =>
      have ht : t.label = s.label := by simpa using List.find?_some hf
      rw [eq_of_label (List.mem_of_find?_eq_some hf) hs ht]

/-- The place of a step is found under its label too. -/
theorem indexOf?_eq_some_iff {l : String} {i : Nat} :
    g.indexOf? l = some i ↔ ∃ s, g.steps[i]? = some s ∧ s.label = l := by
  rw [indexOf?, List.findIdx?_eq_some_iff_getElem]
  constructor
  · rintro ⟨hi, hlabel, -⟩
    exact ⟨_, List.getElem?_eq_getElem hi, beq_iff_eq.mp hlabel⟩
  · rintro ⟨s, hs, rfl⟩
    obtain ⟨hi, rfl⟩ := List.getElem?_eq_some_iff.mp hs
    refine ⟨hi, beq_self_eq_true _, fun j hj hlabel => ?_⟩
    have hjs := List.getElem?_eq_getElem (Nat.lt_trans hj hi)
    have hji := index_eq_of_label hjs hs (beq_iff_eq.mp hlabel)
    omega

/-! ## Adding steps -/

theorem contains_iff {l : String} : g.contains l = true ↔ l ∈ g.labels := by
  simp [contains, labels]

/-- Whether a draft has a label that a step can be added under. -/
structure Draft.HasNewLabel (g : StepGraph) (d : Draft) (l : String) : Prop where
  label : d.label = .str l
  ne_empty : l ≠ ""
  new : l ∉ g.labels

/-- Whether a step is what a draft gives, when it is added to a graph. -/
structure Draft.Gives (g : StepGraph) (d : Draft) (s : Step) : Prop where
  label : d.HasNewLabel g s.label
  function : d.function.resolve = .ok s.function
  typeArguments : d.typeArguments.membersIfGiven = .ok s.typeArguments
  args : s.args = d.args

/-- Why a draft is refused. A later field is looked at only if there is nothing wrong with those
before. -/
inductive Draft.Refused (g : StepGraph) (d : Draft) : Error → Prop where
  /-- The label is no text, or empty. -/
  | label (h : ∀ l, d.label = .str l → l = "") : Refused g d (.invalidLabel d.label)
  | duplicate {l : String} (h : d.label = .str l) (hl : l ∈ g.labels) :
    Refused g d (.duplicateLabel l)
  | function {l : String} (hl : d.HasNewLabel g l) {text reason : String}
    (hf : d.function.resolve = .error (.malformedFunctionId text reason)) :
    Refused g d (.malformedFunctionId text reason)
  /-- The type arguments cannot be gone through. -/
  | typeArguments {l : String} (hl : d.HasNewLabel g l) {id : FunctionId}
    (hf : d.function.resolve = .ok id) (ht : d.typeArguments.isLone = true) :
    Refused g d .wrongType

theorem labelOf_str {l : String} (hl : l ≠ "") : labelOf (.str l) = .ok ⟨l, hl⟩ := dif_neg hl

/-- A label is a text that is not empty, or refused. -/
theorem labelOf_cases (j : Json) :
    ((∀ l, j = .str l → l = "") ∧ labelOf j = .error (.invalidLabel j)) ∨
      ∃ l, ∃ h : l ≠ "", j = .str l ∧ labelOf j = .ok ⟨l, h⟩ := by
  cases j with
  | str l =>
    by_cases h : l = ""
    · exact Or.inl ⟨fun l' h' => (Json.str.inj h') ▸ h, dif_pos h⟩
    · exact Or.inr ⟨l, h, rfl, labelOf_str h⟩
  | _ => exact Or.inl ⟨nofun, rfl⟩

/-- A function is read, or refused as malformed. -/
theorem functionOf_cases (j : Json) :
    (∃ text reason, functionOf j = .error (.malformedFunctionId text reason)) ∨
      ∃ id, functionOf j = .ok id := by
  unfold functionOf
  split
  · split
    · exact Or.inr ⟨_, rfl⟩
    · exact Or.inl ⟨_, _, rfl⟩
  · exact Or.inl ⟨_, _, rfl⟩

/-- A callee is a malformed text or gives a function; one that was read before gives itself. -/
theorem Callee.resolve_cases (c : Callee) :
    (∃ text reason, c.resolve = .error (.malformedFunctionId text reason)) ∨
      ∃ id, c.resolve = .ok id := by
  cases c with
  | field j => exact functionOf_cases j
  | id f => exact Or.inr ⟨f, rfl⟩

/-- **A draft is either refused, or the step that it gives stands at the end.** -/
theorem add_cases (g : StepGraph) (d : Draft) :
    (∃ e, d.Refused g e ∧ g.add d = .error e) ∨
      ∃ s g', d.Gives g s ∧ g.add d = .ok g' ∧ g'.steps = g.steps ++ [s] := by
  unfold StepGraph.add
  rcases labelOf_cases d.label with ⟨hlabel, heq⟩ | ⟨l, hne, hlabel, heq⟩
  · exact Or.inl ⟨_, .label hlabel, by rw [heq]; rfl⟩
  rw [heq]
  by_cases hnew : g.contains l = true
  · exact Or.inl ⟨_, .duplicate hlabel (contains_iff.mp hnew), dif_pos hnew⟩
  have hl : d.HasNewLabel g l := ⟨hlabel, hne, fun h => hnew (contains_iff.mpr h)⟩
  rcases d.function.resolve_cases with ⟨text, reason, hf⟩ | ⟨id, hf⟩
  · exact Or.inl ⟨_, .function hl hf, (dif_neg hnew).trans (by rw [hf]; rfl)⟩
  rcases d.typeArguments.membersIfGiven_eq with ⟨hlone, ht⟩ | ⟨-, types, ht⟩
  · exact Or.inl ⟨_, .typeArguments hl hf hlone, (dif_neg hnew).trans (by rw [hf, ht]; rfl)⟩
  · exact Or.inr ⟨⟨l, id, types, d.args⟩, _, ⟨hl, hf, ht, rfl⟩,
      (dif_neg hnew).trans (by rw [hf, ht]; rfl), rfl⟩

/-- What is added to a graph stands at its end, as it was drafted. -/
theorem exists_step_of_add {d : Draft} {g' : StepGraph} (h : g.add d = .ok g') :
    ∃ s, d.Gives g s ∧ g'.steps = g.steps ++ [s] := by
  rcases g.add_cases d with ⟨e, -, he⟩ | ⟨s, g₁, hs, hadd, hsteps⟩
  · rw [he] at h
    cases h
  · rw [hadd] at h
    cases h
    exact ⟨s, hs, hsteps⟩

/-- A step that is not added is refused for one of these reasons. -/
theorem refused_of_add {d : Draft} {e : Error} (h : g.add d = .error e) : d.Refused g e := by
  rcases g.add_cases d with ⟨e', he', hadd⟩ | ⟨s, g₁, -, hadd, -⟩
  · rw [hadd] at h
    cases h
    exact he'
  · rw [hadd] at h
    cases h

/-- A graph keeps to proper arguments when a step with proper arguments is added. -/
theorem IsProper.add (hg : g.IsProper) {draft : Draft} {g' : StepGraph}
    (hdraft : ∀ a ∈ draft.args, a.isTellable = true) (h : g.add draft = .ok g') : g'.IsProper := by
  obtain ⟨s, hs, hsteps⟩ := exists_step_of_add h
  intro t ht
  rw [hsteps] at ht
  rcases List.mem_append.mp ht with hold | hnew
  · exact hg t hold
  · rw [List.mem_singleton.mp hnew, hs.args]
    exact hdraft

/-! ## References by place -/

/-- Whether a reference stands at a place. -/
def RefAt (g : StepGraph) (p : Place) (r : Ref) : Prop :=
  ∃ s, g.steps[p.step]? = some s ∧ s.args[p.arg]? = some (.ref r)

/-- A reference stands somewhere if some step has it. -/
theorem exists_refAt_iff {r : Ref} : (∃ p, g.RefAt p r) ↔ ∃ s ∈ g.steps, r ∈ s.refs := by
  constructor
  · rintro ⟨p, s, hs, hr⟩
    exact ⟨s, List.mem_of_getElem? hs, Step.mem_refs_iff.mpr (List.mem_of_getElem? hr)⟩
  · rintro ⟨s, hs, hr⟩
    obtain ⟨k, hk⟩ := List.mem_iff_getElem?.mp hs
    obtain ⟨j, hj⟩ := List.mem_iff_getElem?.mp (Step.mem_refs_iff.mp hr)
    exact ⟨⟨k, j⟩, s, hk, hj⟩

/-- The references that are met before a place. -/
def refsBefore (g : StepGraph) (p : Place) : List Ref :=
  (g.steps.take p.step).flatMap Step.refs ++
    (((g.steps[p.step]?).map Step.args).getD [] |>.take p.arg).filterMap Arg.ref?

/-- The references before a place are those at the places before it. -/
theorem mem_refsBefore_iff {p : Place} {r : Ref} :
    r ∈ g.refsBefore p ↔ ∃ q, q.Before p ∧ g.RefAt q r := by
  simp only [refsBefore, List.mem_append, List.mem_flatMap, List.mem_filterMap,
    Arg.ref?_eq_some_iff, exists_eq_right]
  constructor
  · rintro (⟨s, hs, hr⟩ | hr)
    · obtain ⟨k, hk⟩ := List.mem_iff_getElem?.mp hs
      obtain ⟨j, hj⟩ := List.mem_iff_getElem?.mp (Step.mem_refs_iff.mp hr)
      rw [List.getElem?_take, Option.ite_none_right_eq_some] at hk
      exact ⟨⟨k, j⟩, Or.inl hk.1, s, hk.2, hj⟩
    -- in the step of the place itself, among the arguments before it
    · obtain ⟨j, hj⟩ := List.mem_iff_getElem?.mp hr
      rw [List.getElem?_take, Option.ite_none_right_eq_some] at hj
      cases hs : g.steps[p.step]? with
      | none => simp [hs] at hj
      | some s =>
        rw [hs, Option.map_some, Option.getD_some] at hj
        exact ⟨⟨p.step, j⟩, Or.inr ⟨rfl, hj.1⟩, s, hs, hj.2⟩
  · rintro ⟨q, hq | ⟨hq, hlt⟩, s, hs, hr⟩
    · refine Or.inl ⟨s, ?_, Step.mem_refs_iff.mpr (List.mem_of_getElem? hr)⟩
      exact List.mem_of_getElem? (i := q.step) (by rw [List.getElem?_take_of_lt hq, hs])
    · refine Or.inr ?_
      rw [← hq, hs, Option.map_some, Option.getD_some]
      exact List.mem_of_getElem? (i := q.arg) (by rw [List.getElem?_take_of_lt hlt, hr])

/-- The steps up to an argument: those before its own, and its own with the arguments before it. -/
def upTo (g : StepGraph) (p : Place) : List Step :=
  g.steps.take p.step ++
    ((g.steps[p.step]?).map fun s => { s with args := s.args.take p.arg }).toList

/-- The references to an output are those of all steps that name it. -/
theorem mem_refsTo_iff {l : String} {i : Nat} {s : Step} {r : Ref} :
    (s, r) ∈ g.refsTo l i ↔ s ∈ g.steps ∧ r ∈ s.refs ∧ r.target = (l, i) := by
  simp only [refsTo, List.mem_flatMap, List.mem_map, List.mem_filter, Bool.and_eq_true, beq_iff_eq,
    Prod.mk.injEq, Ref.target]
  constructor
  · rintro ⟨t, ht, u, ⟨hu, htarget⟩, rfl, rfl⟩
    exact ⟨ht, hu, htarget⟩
  · rintro ⟨hs, hr, htarget⟩
    exact ⟨s, hs, r, ⟨hr, htarget⟩, rfl, rfl⟩

/-! ## What is asked of a step -/

theorem foldl_demand_le_iff {n b : Nat} (rs : List Ref) :
    rs.foldl (fun n r => max n (r.index + 1)) n ≤ b ↔ n ≤ b ∧ ∀ r ∈ rs, r.index < b := by
  induction rs generalizing n with
  | nil => simp
  | cons r rest ih =>
    rw [List.foldl_cons, ih, List.forall_mem_cons, Nat.max_le, Nat.succ_le_iff, and_assoc]

/-- The demanded arity is the least number above all indices that are asked for. -/
theorem demandedArity_le_iff {l : String} {b : Nat} :
    g.demandedArity l ≤ b ↔ ∀ s ∈ g.steps, ∀ r ∈ s.refs, r.step = l → r.index < b := by
  -- the fold starts from any number, as it does in the middle of the steps
  have key : ∀ (steps : List Step) (n : Nat), steps.foldl (fun n s =>
      (s.refs.filter fun r => r.step == l).foldl (fun n r => max n (r.index + 1)) n) n ≤ b ↔
      n ≤ b ∧ ∀ s ∈ steps, ∀ r ∈ s.refs, r.step = l → r.index < b := by
    intro steps
    induction steps with
    | nil => simp
    | cons s rest ih =>
      intro n
      simp only [List.foldl_cons, ih, foldl_demand_le_iff, List.forall_mem_cons, List.mem_filter,
        beq_iff_eq, and_imp, and_assoc]
  rw [demandedArity, key]
  simp

/-- A step is asked for more outputs than any reference to it counts up to. -/
theorem lt_demandedArity {s : Step} {r : Ref} (hs : s ∈ g.steps) (hr : r ∈ s.refs) :
    r.index < g.demandedArity r.step :=
  demandedArity_le_iff.mp (Nat.le_refl _) s hs r hr rfl

end StepGraph

end MovePlan
