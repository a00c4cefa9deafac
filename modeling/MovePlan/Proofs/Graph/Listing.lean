import Mathlib.Data.List.Basic
import MovePlan.Proofs.Graph.Place

/-!
# What a graph lists

A graph lists the functions that its steps call, each once, in the order of their first calls
(`pairwise_functionIds`). It lists the references to an output in the order in which they are met. Two of them
may be alike, in one step even, and are told apart by their places: the list is that of all the places where
there is one (`exists_refsTo_numbered`).
-/

namespace MovePlan.StepGraph

open Move Graph

variable {g : StepGraph}

/-! ## Functions -/

section Distinct

variable {α : Type} [BEq α] [LawfulBEq α]

/-- Nothing is lost when repetitions are left out. -/
theorem mem_distinct {x : α} {xs : List α} : x ∈ distinct xs ↔ x ∈ xs := by
  induction xs with
  | nil => rfl
  | cons y rest ih =>
    by_cases h : x = y <;> simp [distinct, h, ih]

/-- The items that are left are in the order in which they come first. -/
theorem pairwise_distinct (xs : List α) :
    (distinct xs).Pairwise fun x y => xs.idxOf x < xs.idxOf y := by
  induction xs with
  | nil => exact .nil
  | cons x rest ih =>
    have hne : ∀ y ∈ (distinct rest).filter fun y => !(y == x), x ≠ y := fun y hy =>
      Ne.symm (by simpa using (List.mem_filter.mp hy).2)
    rw [distinct, List.pairwise_cons]
    constructor
    · intro y hy
      rw [List.idxOf_cons_self, List.idxOf_cons_ne rest (hne y hy)]
      exact Nat.succ_pos _
    · refine (ih.filter _).imp_of_mem fun hy hz hlt => ?_
      rw [List.idxOf_cons_ne rest (hne _ hy), List.idxOf_cons_ne rest (hne _ hz)]
      exact Nat.succ_lt_succ hlt

/-- Without repetitions nothing is there twice. -/
theorem nodup_distinct (xs : List α) : (distinct xs).Nodup :=
  (pairwise_distinct xs).imp fun hlt h => absurd (h ▸ hlt) (Nat.lt_irrefl _)

end Distinct

/-- The functions of a graph are those of its steps. -/
theorem mem_functionIds {id : FunctionId} : id ∈ g.functionIds ↔ ∃ s ∈ g.steps, s.function = id := by
  rw [functionIds, mem_distinct, List.mem_map]

theorem nodup_functionIds (g : StepGraph) : g.functionIds.Nodup := nodup_distinct _

/-- The number of the first step that calls a function. -/
def firstCall (g : StepGraph) (id : FunctionId) : Nat := (g.steps.map Step.function).idxOf id

/-- They stand in the order of their first calls. -/
theorem pairwise_functionIds (g : StepGraph) :
    g.functionIds.Pairwise fun f f' => g.firstCall f < g.firstCall f' := pairwise_distinct _

/-! ## References to an output -/

/-- The references of a step to an output, with their places. -/
def numberedRefsOf (t : String × Nat) (s : Step) (k : Nat) : List (Place × Step × Ref) :=
  s.args.zipIdx.filterMap fun (a, j) =>
    (a.ref?.filter fun u => u.target == t).map fun u => (⟨k, j⟩, s, u)

/-- The references of a graph to an output, with their places. -/
def numberedRefs (g : StepGraph) (t : String × Nat) : List (Place × Step × Ref) :=
  g.steps.zipIdx.flatMap fun (s, k) => numberedRefsOf t s k

variable {t : String × Nat} {s s' : Step} {k : Nat} {p : Place} {u : Ref}

theorem mem_numberedRefsOf : (p, s', u) ∈ numberedRefsOf t s k ↔
    p.step = k ∧ s' = s ∧ s.args[p.arg]? = some (.ref u) ∧ u.target = t := by
  simp only [numberedRefsOf, List.mem_filterMap, Prod.exists, List.mk_mem_zipIdx_iff_getElem?,
    Option.map_eq_some_iff, Option.filter_eq_some_iff, Arg.ref?_eq_some_iff, beq_iff_eq,
    Prod.mk.injEq]
  constructor
  · rintro ⟨a, j, ha, u, ⟨rfl, ht⟩, rfl, rfl, rfl⟩
    exact ⟨rfl, rfl, ha, ht⟩
  · rintro ⟨rfl, rfl, ha, ht⟩
    exact ⟨_, p.arg, ha, u, ⟨rfl, ht⟩, rfl, rfl, rfl⟩

/-- The listed references to an output are all of them, each with its place. -/
theorem mem_numberedRefs : (p, s, u) ∈ g.numberedRefs t ↔
    g.steps[p.step]? = some s ∧ s.args[p.arg]? = some (.ref u) ∧ u.target = t := by
  simp only [numberedRefs, List.mem_flatMap, Prod.exists, List.mk_mem_zipIdx_iff_getElem?,
    mem_numberedRefsOf]
  constructor
  · rintro ⟨_, _, hs, rfl, rfl, hu⟩
    exact ⟨hs, hu⟩
  · rintro ⟨hs, hu⟩
    exact ⟨s, p.step, hs, rfl, rfl, hu⟩

theorem pairwise_zipIdx {α : Type} (xs : List α) : xs.zipIdx.Pairwise fun x y => x.2 < y.2 := by
  have h := List.pairwise_lt_range' (s := 0) (n := xs.length) 1
  rw [← List.zipIdx_map_snd 0 xs, List.pairwise_map] at h
  exact h

/-- In a step they stand in the order of its arguments. -/
theorem pairwise_numberedRefsOf (t : String × Nat) (s : Step) (k : Nat) :
    (numberedRefsOf t s k).Pairwise fun x y => x.1.Before y.1 := by
  refine List.pairwise_filterMap.mpr ((pairwise_zipIdx s.args).imp fun {x y} hlt b hb b' hb' => ?_)
  obtain ⟨u, -, rfl⟩ := Option.map_eq_some_iff.mp hb
  obtain ⟨u', -, rfl⟩ := Option.map_eq_some_iff.mp hb'
  exact Or.inr ⟨rfl, hlt⟩

/-- Places are met by step, then by argument. -/
theorem pairwise_numberedRefs (g : StepGraph) (t : String × Nat) :
    (g.numberedRefs t).Pairwise fun x y => x.1.Before y.1 := by
  refine List.pairwise_flatMap.mpr ⟨fun x _ => pairwise_numberedRefsOf t x.1 x.2, ?_⟩
  refine (pairwise_zipIdx g.steps).imp fun {x y} hlt => ?_
  rintro ⟨p, s, u⟩ hp ⟨p', s', u'⟩ hp'
  have hx : p.step = x.2 := (mem_numberedRefsOf.mp hp).1
  have hy : p'.step = y.2 := (mem_numberedRefsOf.mp hp').1
  exact Or.inl (show p.step < p'.step by omega)

theorem map_snd_numberedRefsOf (l : String) (i : Nat) (s : Step) (k : Nat) :
    (numberedRefsOf (l, i) s k).map Prod.snd =
      (s.refs.filter fun r => r.step == l && r.index == i).map fun r => (s, r) := by
  conv_rhs => rw [Step.refs, ← List.zipIdx_map_fst 0 s.args, List.filterMap_map]
  rw [List.filter_filterMap, List.map_filterMap, numberedRefsOf, List.map_filterMap]
  simp only [Option.map_map]
  rfl

/-- Without their places they are the references to the output. -/
theorem map_snd_numberedRefs (g : StepGraph) (l : String) (i : Nat) :
    (g.numberedRefs (l, i)).map Prod.snd = g.refsTo l i := by
  conv_rhs => rw [refsTo, ← List.zipIdx_map_fst 0 g.steps, List.flatMap_map]
  rw [numberedRefs, List.map_flatMap]
  simp only [map_snd_numberedRefsOf]

/-- **The references to an output are listed by their places**, each place once, in the order in which
they are met. -/
theorem exists_refsTo_numbered (g : StepGraph) (l : String) (i : Nat) :
    ∃ numbered : List (Place × Step × Ref), numbered.map Prod.snd = g.refsTo l i ∧
      (numbered.map Prod.fst).Pairwise Place.Before ∧
      ∀ p s u, (p, s, u) ∈ numbered ↔
        g.steps[p.step]? = some s ∧ s.args[p.arg]? = some (.ref u) ∧ u.target = (l, i) :=
  ⟨g.numberedRefs (l, i), map_snd_numberedRefs g l i,
    List.pairwise_map.mpr (pairwise_numberedRefs g (l, i)), fun _ _ _ => mem_numberedRefs⟩

end MovePlan.StepGraph
