import MovePlan.Graph.Register
import MovePlan.Proofs.Graph.Listing

/-!
# The index of a register

A register is a graph with an index: after the same calls, refused ones among them, it has the steps of the
graph, and the index has for each label the place at which going through the steps ends
(`Register.Mirrors`). What one call keeps (`Mirrors.run_add`), any calls keep (`Mirrors.run_addEach`).
-/

namespace MovePlan

open Move Graph StepGraph

/-- A draft is offered to a graph, which stays as it was if it refuses. -/
def StepGraph.offer (d : Draft) : StateM StepGraph (Except Error Unit) := fun g =>
  match g.add d with
  | .error e => (.error e, g)
  | .ok g' => (.ok (), g')

/-- Drafts are offered one after the other. -/
def StepGraph.offerEach (ds : List Draft) : StateM StepGraph (List (Except Error Unit)) :=
  ds.mapM offer

namespace Register

variable {r : Register} {g : StepGraph} {d : Draft} {s : Step} {e : Error}

/-- Whether a register has the steps of a graph, and finds them where they are. -/
structure Mirrors (r : Register) (g : StepGraph) : Prop where
  steps : r.steps = g.steps
  indexOf? : ∀ l, r.indexOf? l = g.indexOf? l

theorem mirrors_empty : Mirrors {} {} := ⟨rfl, fun _ => rfl⟩

/-! ## Looking up -/

theorem Mirrors.contains (h : r.Mirrors g) (l : String) : r.contains l = g.contains l := by
  rw [Register.contains, h.indexOf?, StepGraph.indexOf?, List.findIdx?_isSome, StepGraph.contains]

theorem Mirrors.not_contains (h : r.Mirrors g) {l : String} (hl : d.HasNewLabel g l) :
    ¬ r.contains l = true := by
  rw [h.contains, contains_iff]
  exact hl.new

theorem Mirrors.indexOf?_eq_some_iff (h : r.Mirrors g) {l : String} {i : Nat} :
    r.indexOf? l = some i ↔ ∃ s, r.steps[i]? = some s ∧ s.label = l := by
  rw [h.indexOf?, StepGraph.indexOf?_eq_some_iff, h.steps]

theorem Mirrors.get? (h : r.Mirrors g) (l : String) : r.get? l = g.get? l := by
  ext s
  rw [StepGraph.get?_eq_some_iff, Register.get?]
  constructor
  · intro hs
    obtain ⟨i, hi, hs⟩ := Option.bind_eq_some_iff.mp hs
    obtain ⟨t, ht, hlabel⟩ := h.indexOf?_eq_some_iff.mp hi
    rw [hs] at ht
    cases ht
    exact ⟨h.steps ▸ List.mem_of_getElem? hs, hlabel⟩
  · rintro ⟨hs, hlabel⟩
    obtain ⟨i, hi⟩ := List.mem_iff_getElem?.mp hs
    rw [← h.steps] at hi
    exact Option.bind_eq_some_iff.mpr ⟨i, h.indexOf?_eq_some_iff.mpr ⟨s, hi, hlabel⟩, hi⟩

/-! ## One call -/

/-- The register with one more step at the end, and the place of it in the index. -/
def push (r : Register) (s : Step) : Register where
  steps := r.steps ++ [s]
  index := (s.label, r.steps.length) :: r.index

/-- Both are written in such a way that they still agree. -/
theorem Mirrors.push {g' : StepGraph} (h : r.Mirrors g) (hnew : s.label ∉ g.labels)
    (hsteps : g'.steps = g.steps ++ [s]) : (r.push s).Mirrors g' := by
  refine ⟨by rw [hsteps, ← h.steps]; rfl, fun l => ?_⟩
  have hold := h.indexOf? l
  rw [Register.indexOf?, StepGraph.indexOf?] at hold
  rw [Register.indexOf?, Register.push, StepGraph.indexOf?, hsteps, List.findIdx?_append]
  by_cases hl : l = s.label
  · subst hl
    have hnone : g.steps.findIdx? (fun t => t.label == s.label) = none := by
      refine List.findIdx?_eq_none_iff.mpr fun t ht => beq_false_of_ne fun heq => hnew ?_
      exact List.mem_map.mpr ⟨t, ht, heq⟩
    rw [hnone]
    simp [h.steps]
  · have hne : (s.label == l) = false := beq_false_of_ne (Ne.symm hl)
    rw [List.lookup_cons, beq_false_of_ne hl, hold]
    simp [hne]

/-- What a call comes to: nothing is written before the last check. -/
theorem run_add (r : Register) (d : Draft) : (add d).run.run r =
    match labelOf d.label with
    | .error e => (.error e, r)
    | .ok label =>
      if r.contains label then (.error (.duplicateLabel label), r)
      else
        match d.function.resolve, d.typeArguments.membersIfGiven with
        | .error e, _ => (.error e, r)
        | .ok _, .error e => (.error e, r)
        | .ok function, .ok typeArguments =>
          (.ok (), r.push ⟨label, function, typeArguments, d.args⟩) := by
  unfold add
  cases labelOf d.label with
  | error e => rfl
  | ok label =>
    show (ite (r.contains label = true) _ _ : ExceptT Error (StateM Register) Unit).run.run r = _
    by_cases hlabel : r.contains label = true
    · rw [if_pos hlabel]
      exact (if_pos hlabel).symm
    · rw [if_neg hlabel]
      refine Eq.trans ?_ (if_neg hlabel).symm
      cases d.function.resolve with
      | error e => rfl
      | ok function => cases d.typeArguments.membersIfGiven <;> rfl

/-- A draft that a graph refuses is refused, and leaves no trace. -/
theorem Mirrors.run_add_of_refused (h : r.Mirrors g) (hd : d.Refused g e) :
    (add d).run.run r = (.error e, r) := by
  rw [run_add]
  cases hd with
  | label hl =>
    rcases labelOf_cases d.label with ⟨-, heq⟩ | ⟨l, hne, hstr, -⟩
    · rw [heq]
    · exact absurd (hl l hstr) hne
  | @duplicate l hl hmem =>
    obtain ⟨s, hs, rfl⟩ := List.mem_map.mp hmem
    have hcontains : r.contains s.label = true := h.contains _ ▸ contains_iff.mpr hmem
    rw [hl, labelOf_str (g.label_ne_empty s hs)]
    exact if_pos hcontains
  | function hl hf =>
    rw [hl.label, labelOf_str hl.ne_empty, hf]
    exact if_neg (h.not_contains hl)
  | typeArguments hl hf ht =>
    have hlone : d.typeArguments.membersIfGiven = .error .wrongType := by
      rcases d.typeArguments.membersIfGiven_eq with ⟨-, heq⟩ | ⟨hfalse, -⟩
      · exact heq
      · rw [ht] at hfalse
        cases hfalse
    rw [hl.label, labelOf_str hl.ne_empty, hf, hlone]
    exact if_neg (h.not_contains hl)

/-- The step that a draft gives is written at the end of the register too. -/
theorem Mirrors.run_add_of_gives (h : r.Mirrors g) (hd : d.Gives g s) :
    (add d).run.run r = (.ok (), r.push s) := by
  rw [run_add, hd.label.label, labelOf_str hd.label.ne_empty, hd.function, hd.typeArguments,
    ← hd.args]
  exact if_neg (h.not_contains hd.label)

/-- **One call keeps steps and index in agreement**, and is answered as a graph answers. -/
theorem Mirrors.run_add (h : r.Mirrors g) (d : Draft) :
    ((add d).run.run r).1 = ((offer d).run g).1 ∧
      ((add d).run.run r).2.Mirrors ((offer d).run g).2 ∧
      r.steps <+: ((add d).run.run r).2.steps := by
  rcases g.add_cases d with ⟨e, hd, hadd⟩ | ⟨s, g', hd, hadd, hsteps⟩
  · have hoffer : (offer d).run g = (.error e, g) := by
      show offer d g = _
      rw [offer, hadd]
    rw [h.run_add_of_refused hd, hoffer]
    exact ⟨rfl, h, List.prefix_rfl⟩
  · have hoffer : (offer d).run g = (.ok (), g') := by
      show offer d g = _
      rw [offer, hadd]
    rw [h.run_add_of_gives hd, hoffer]
    exact ⟨rfl, h.push hd.label.new hsteps, List.prefix_append _ _⟩

/-! ## Any calls -/

/-- **So do any calls**, whichever of them are refused. -/
theorem Mirrors.run_addEach (h : r.Mirrors g) (ds : List Draft) :
    ((addEach ds).run r).1 = ((offerEach ds).run g).1 ∧
      ((addEach ds).run r).2.Mirrors ((offerEach ds).run g).2 ∧
      r.steps <+: ((addEach ds).run r).2.steps := by
  induction ds generalizing r g with
  | nil => exact ⟨rfl, h, List.prefix_rfl⟩
  | cons d rest ih =>
    obtain ⟨hanswer, hmirrors, hkept⟩ := h.run_add d
    obtain ⟨hanswers, hmirrors', hkept'⟩ := ih hmirrors
    rw [addEach, offerEach, List.mapM_cons, List.mapM_cons]
    exact ⟨congrArg₂ _ hanswer hanswers, hmirrors', hkept.trans hkept'⟩

/-- What holds of a register with the steps of a graph, and of the next calls. -/
structure Agrees (r : Register) (g : StepGraph) : Prop where
  steps : r.steps = g.steps
  indexOf? : ∀ l i, r.indexOf? l = some i ↔ ∃ s, r.steps[i]? = some s ∧ s.label = l
  get? : ∀ l i, r.indexOf? l = some i → ∃ s, r.steps[i]? = some s ∧ r.get? l = some s
  get?_none : ∀ l, r.indexOf? l = none → r.get? l = none
  contains : ∀ l, r.contains l = true ↔ ∃ s ∈ r.steps, s.label = l
  /-- The graph, which has no index, finds the same. -/
  lookups : ∀ l, r.indexOf? l = g.indexOf? l ∧ r.get? l = g.get? l ∧ r.contains l = g.contains l
  nodup_labels : (r.steps.map Step.label).Nodup
  label_ne_empty : ∀ s ∈ r.steps, s.label ≠ ""
  /-- A call is refused and changes nothing, or adds what its draft gives. -/
  next : ∀ d : Draft, (∃ e, d.Refused g e ∧ (add d).run.run r = (.error e, r)) ∨
    ∃ s r', d.Gives g s ∧ (add d).run.run r = (.ok (), r') ∧ r'.steps = r.steps ++ [s]
  /-- Whatever is called, the steps stay where they are. -/
  kept : ∀ ds : List Draft, r.steps <+: ((addEach ds).run r).2.steps
  /-- The references to an output are listed by their places, each once, in order. -/
  refsTo : ∀ l i, ∃ numbered : List (Place × Step × Ref), numbered.map Prod.snd = g.refsTo l i ∧
    (numbered.map Prod.fst).Pairwise Place.Before ∧
    ∀ p s u, (p, s, u) ∈ numbered ↔
      r.steps[p.step]? = some s ∧ s.args[p.arg]? = some (.ref u) ∧ u.target = (l, i)
  /-- The functions that are called are listed each once, in the order of their first calls. -/
  functionIds : g.functionIds.Pairwise fun f f' => g.firstCall f < g.firstCall f'
  mem_functionIds : ∀ id, id ∈ g.functionIds ↔ ∃ s ∈ r.steps, s.function = id

theorem Mirrors.agrees (h : r.Mirrors g) : r.Agrees g where
  steps := h.steps
  indexOf? _ _ := h.indexOf?_eq_some_iff
  get? l i hi := by
    obtain ⟨s, hs, -⟩ := h.indexOf?_eq_some_iff.mp hi
    exact ⟨s, hs, Option.bind_eq_some_iff.mpr ⟨i, hi, hs⟩⟩
  get?_none l hl := by
    rw [Register.get?, hl]
    rfl
  contains l := by
    rw [h.contains, contains_iff, h.steps]
    exact List.mem_map
  lookups l := ⟨h.indexOf? l, h.get? l, h.contains l⟩
  nodup_labels := h.steps ▸ g.nodup_labels
  label_ne_empty := h.steps ▸ g.label_ne_empty
  next d := by
    rcases g.add_cases d with ⟨e, hd, -⟩ | ⟨s, g', hd, -, -⟩
    · exact Or.inl ⟨e, hd, h.run_add_of_refused hd⟩
    · exact Or.inr ⟨s, r.push s, hd, h.run_add_of_gives hd, rfl⟩
  kept ds := (h.run_addEach ds).2.2
  refsTo l i := h.steps ▸ exists_refsTo_numbered g l i
  functionIds := pairwise_functionIds g
  mem_functionIds _ := h.steps ▸ mem_functionIds

/-- **After any calls, the steps and the index of a register agree.** -/
theorem addEach_agrees (ds : List Draft) :
    ((addEach ds).run {}).1 = ((offerEach ds).run {}).1 ∧
      ((addEach ds).run {}).2.Agrees ((offerEach ds).run {}).2 := by
  obtain ⟨hanswers, hmirrors, -⟩ := mirrors_empty.run_addEach ds
  exact ⟨hanswers, hmirrors.agrees⟩

end Register

end MovePlan
