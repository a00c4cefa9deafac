import MovePlan.Proofs.Plan.Mending

/-!
# Corrections name what was repaired

The list of corrections of a plan says what its repair did: the plan and its repair agree but for the
fields that corrections name, each of these was mended, and no field is named twice. What holds for the
parts is put together for lists, steps and the plan. So the corrections are exactly the fields that
became others (`mem_repair_iff`).
-/

namespace MovePlan.Plan

open Json

/-! ## Lists -/

/-- The list in a field of an object is mended: `A` and `value` are about its items, and `index` tells
which item a correction is of. -/
abbrev ListMended (key : String) (A : (Correction → Json → Json → Prop) → Nat → Json → Json → Prop)
    (value : Correction → Json → Option Json) (IsOf : Nat → Correction → Prop)
    (index : Correction → Nat) : Json → Json → List Correction → Prop :=
  Mended (fun R => ObjectsAgree fun k v w => k = key ∧ ItemsAgree (A R) v w)
    (fun c v => ((v.get? key).bind (item? (index c))).bind (value c)) fun c => ∃ k, IsOf k c

/-- A list is mended if each of its items is. -/
theorem listMended_repairList {A : (Correction → Json → Json → Prop) → Nat → Json → Json → Prop}
    {value : Correction → Json → Option Json} {IsOf : Nat → Correction → Prop}
    {repair : Nat → Json → Json × List Correction} (index : Correction → Nat)
    (h : ∀ k x, Mended (A · k) value (IsOf k) x (repair k x).1 (repair k x).2)
    (hA : ∀ {R S} k v w, (∀ c v w, R c v w → S c v w) → A R k v w → A S k v w)
    (hindex : ∀ k c, IsOf k c → index c = k) (key : String) (fields : Fields) :
    ListMended key A value IsOf index (.obj fields) (.obj (repairList key repair fields).1)
      (repairList key repair fields).2 := by
  rcases repairList_cases key fields with he | ⟨items, hitems, he⟩
  · rw [he]
    exact ⟨ObjectsAgree.refl _, by simp, by simp, .nil⟩
  · rw [he]
    -- a correction of the list is one of an item, which its index tells
    have hof : ∀ c ∈ (repairEach repair 0 items).2, ∃ k x, items[k]? = some x ∧
        c ∈ (repair k x).2 := fun c hc => by
      simpa only [Nat.zero_add] using (mem_repairEach 0).mp hc
    have hget : ∀ k, (repairEach repair 0 items).1[k]? = items[k]?.map fun x => (repair k x).1 :=
      fun k => by rw [getElem?_repairEach, Nat.zero_add]
    refine ⟨ObjectsAgree.setField hitems ⟨rfl, (length_repairEach 0).symm, ?_⟩, ?_, ?_,
      nodup_repairEach (fun k x => (h k x).nodup)
        (fun k x c hc => hindex k c ((h k x).isOf c hc)) 0⟩
    · intro k x y hx hy
      rw [hget, hx] at hy
      cases hy
      refine hA k _ _ (MendedBy.mono fun c hc => ?_) (h k x).agree
      exact (mem_repairEach 0).mpr ⟨k, x, hx, by rwa [Nat.zero_add]⟩
    · intro c hc
      obtain ⟨k, x, -, hc⟩ := hof c hc
      exact ⟨k, (h k x).isOf c hc⟩
    · intro c hc
      obtain ⟨k, x, hx, hc⟩ := hof c hc
      have hk : index c = k := hindex k c ((h k x).isOf c hc)
      show ((field? key fields).bind (item? (index c))).bind (value c) ≠
        ((field? key (setField key _ fields)).bind (item? (index c))).bind (value c)
      rw [hitems, field?_setField_self, hk]
      show (items[k]?).bind (value c) ≠ ((repairEach repair 0 items).1[k]?).bind (value c)
      rw [hget, hx]
      exact (h k x).differ c hc

/-! ## Steps -/

/-- The repair of a step's head is a stage of the step's repair. -/
theorem stepMended_of_head {i : Nat} {v w : Json} {cs : List Correction}
    (h : PartMended (.step i) v w cs) : StepMended i v w cs := by
  refine h.imp (fun hagree => ?_) ?_ ?_
  · exact ObjectsAgree.imp (fun _ _ _ => Or.inl) hagree
  · exact fun c hc => by simp [hc, Place.list, Place.index]
  · rintro ⟨place, slip⟩ v rfl
    rfl

/-- The place among the arguments of a step. -/
def Place.argument : Place → Nat
  | arg _ j => j
  | _ => 0

/-- The arguments of the step at a place are mended. -/
abbrev ArgsMended (i : Nat) : Json → Json → List Correction → Prop :=
  ListMended "args" (fun R j => PartsAgree R (.arg i j)) (fun c => Json.get? c.slip.key)
    (fun j c => c.place = .arg i j) (·.place.argument)

theorem argsMended_repairArgs (i : Nat) (fields : Fields) :
    ArgsMended i (.obj fields) (.obj (repairArgs i fields).1) (repairArgs i fields).2 := by
  refine listMended_repairList _ (partMended_repairArgAt i) (fun _ _ _ => PartsAgree.imp) ?_ _ _
  rintro j c hc
  rw [hc, Place.argument]

/-- The repair of a step's arguments is the other stage. -/
theorem stepMended_of_args {i : Nat} {v w : Json} {cs : List Correction}
    (h : ArgsMended i v w cs) : StepMended i v w cs := by
  refine h.imp (fun hagree => ?_) ?_ ?_
  · exact ObjectsAgree.imp (fun _ _ _ => Or.inr) hagree
  · rintro c ⟨j, hc⟩
    simp [hc, Place.list, Place.index]
  · rintro ⟨place, slip⟩ v ⟨j, rfl⟩
    rfl

theorem stepMended_repairStep (i : Nat) (v : Json) :
    StepMended i v (repairStep i v).1 (repairStep i v).2 := by
  cases v with
  | obj fields =>
    have hhead := partMended_repairHead i fields
    have hargs := argsMended_repairArgs i (repairHead fields).fields
    rw [repairStep_obj]
    refine (stepMended_of_head hhead).trans StepsAgree.trans ?_
      (stepMended_of_args hargs) ?_
    · rintro R c v w ⟨hlist, rfl⟩ hagree
      exact hagree.valueIn? hlist
    · intro c hc hlater
      obtain ⟨j, hj⟩ := hargs.isOf c hlater
      cases (hhead.isOf c hc).symm.trans hj
  | _ => exact ⟨ObjectsAgree.refl _, by simp [repairStep], by simp [repairStep], .nil⟩

/-! ## Plans -/

/-- The steps of a plan are mended. -/
abbrev StepListMended : Json → Json → List Correction → Prop :=
  ListMended "steps" StepsAgree Correction.valueIn?
    (fun i c => c.place.list = "steps" ∧ c.place.index = i) (·.place.index)

/-- The tokens of a plan are mended. -/
abbrev TokenListMended : Json → Json → List Correction → Prop :=
  ListMended "tokens" (fun R i => PartsAgree R (.token i)) (fun c => Json.get? c.slip.key)
    (fun i c => c.place = .token i) (·.place.index)

theorem stepListMended_repairList (fields : Fields) :
    let repaired := repairList "steps" repairStep fields
    StepListMended (.obj fields) (.obj repaired.1) repaired.2 :=
  listMended_repairList _ stepMended_repairStep (fun _ _ _ => StepsAgree.imp) (fun _ _ hc => hc.2) _ _

theorem tokenListMended_repairList (fields : Fields) :
    let repaired := repairList "tokens" repairToken fields
    TokenListMended (.obj fields) (.obj repaired.1) repaired.2 := by
  refine listMended_repairList _ partMended_repairToken (fun _ _ _ => PartsAgree.imp) ?_ _ _
  rintro i c hc
  rw [hc, Place.index]

theorem planMended_of_steps {v w : Json} {cs : List Correction} (h : StepListMended v w cs) :
    PlanMended v w cs := by
  refine h.imp (fun hagree => ?_) (fun _ _ => trivial) ?_
  · exact ObjectsAgree.imp (fun _ _ _ => Or.inl) hagree
  · rintro c v ⟨i, hlist, -⟩
    rw [Correction.value?, hlist]

theorem planMended_of_tokens {v w : Json} {cs : List Correction} (h : TokenListMended v w cs) :
    PlanMended v w cs := by
  refine h.imp (fun hagree => ?_) (fun _ _ => trivial) ?_
  · exact ObjectsAgree.imp (fun _ _ _ => Or.inr) hagree
  · rintro ⟨place, slip⟩ v ⟨i, rfl⟩
    rfl

theorem planMended_repair (p : Json) : PlanMended p (repair p).1 (repair p).2 := by
  cases p with
  | obj fields =>
    have hsteps := stepListMended_repairList fields
    have htokens := tokenListMended_repairList (repairList "steps" repairStep fields).1
    refine (planMended_of_steps hsteps).trans PlansAgree.trans (fun _ hagree => hagree.value? _)
      (planMended_of_tokens htokens) ?_
    intro c hc hlater
    obtain ⟨i, hlist, -⟩ := hsteps.isOf c hc
    obtain ⟨k, hk⟩ := htokens.isOf c hlater
    rw [hk] at hlist
    exact absurd (show "tokens" = "steps" from hlist) (by decide)
  | _ => exact ⟨ObjectsAgree.refl _, by simp [repair], by simp [repair], .nil⟩

/-- **The corrections are the fields that became others.** -/
theorem mem_repair_iff (p : Json) (c : Correction) :
    c ∈ (repair p).2 ↔ c.value? p ≠ c.value? (repair p).1 := by
  have hmended := planMended_repair p
  refine ⟨hmended.differ c, fun hne => ?_⟩
  by_contra hc
  exact hne (hmended.value_eq (fun hagree => hagree.value? c) hc)

end MovePlan.Plan
