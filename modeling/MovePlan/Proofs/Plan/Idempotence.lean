import MovePlan.Proofs.Plan.Stability

/-!
# A repaired plan is not repaired again

A slip that is repaired leaves none behind: the value that a field is given has nothing of the slip
(`repair?_of_repair?`). A stage of the repair sets its own field only, so that what one stage has put in
order the later ones keep (`Slip.Free.congr`). From the fields it is carried to the parts that hold them,
to lists of parts, and to the plan (`repair_repair`).
-/

namespace MovePlan.Plan

open Graph Json

/-! ## Fields -/

/-- Whether the field of a slip, if it is there, has nothing to repair. -/
def Slip.Free (slip : Slip) (fields : Fields) : Prop :=
  ∀ v, field? slip.key fields = some v → slip.repair? v = none

variable {slip : Slip} {fields fields' : Fields} {key : String} {v w : Json}

theorem mem_kindWords_of_repairKind? {s t : String} (h : repairKind? s = some t) : t ∈ kindWords := by
  simp only [repairKind?, Bool.and_eq_true, List.contains_iff_mem,
    Option.ite_none_right_eq_some, Option.some.injEq] at h
  obtain ⟨⟨-, ht⟩, rfl⟩ := h
  exact ht

/-- What a field is given has no slip left. -/
theorem repair?_of_repair? (h : slip.repair? v = some w) : slip.repair? w = none := by
  cases slip with
  | returnIndex | decimals =>
    obtain ⟨n, -, rfl⟩ := Option.map_eq_some_iff.mp h
    rfl
  | mode =>
    obtain ⟨m, -, rfl⟩ := Option.map_eq_some_iff.mp h
    rw [Slip.repair?, Json.text?, Option.bind_some, repairMode?_word]
    rfl
  | kind =>
    obtain ⟨t, ht, rfl⟩ := Option.map_eq_some_iff.mp h
    obtain ⟨s, -, hs⟩ := Option.bind_eq_some_iff.mp ht
    rw [Slip.repair?, Json.text?, Option.bind_some,
      repairKind?_of_mem (mem_kindWords_of_repairKind? hs)]
    rfl
  | function =>
    obtain ⟨s, t, core, -, rfl, -, ht⟩ := (mends_of_repair? h).1
    rw [Slip.repair?, Json.text?, Option.bind_some, ht, repairFunction?_hex]
    rfl
  | typeArguments =>
    obtain ⟨-, rfl⟩ := (mends_of_repair? h).1
    rfl

theorem field?_mend_of_ne (h : key ≠ slip.key) (r : Repaired) :
    field? key (r.mend slip).fields = field? key r.fields := by
  unfold Repaired.mend
  cases (field? slip.key r.fields).bind slip.repair? with
  | none => rfl
  | some w => exact field?_setField_of_ne h w r.fields

namespace Slip.Free

theorem congr (h : slip.Free fields) (heq : field? slip.key fields' = field? slip.key fields) :
    slip.Free fields' :=
  fun v hv => h v (heq ▸ hv)

theorem mend_none (h : slip.Free fields) : (Repaired.none fields).mend slip = .none fields :=
  mend_eq_self h

/-- A field that was repaired is free of its slip. -/
theorem mend (r : Repaired) (slip : Slip) : slip.Free (r.mend slip).fields := by
  unfold Repaired.mend
  cases hw : (field? slip.key r.fields).bind slip.repair? with
  | none =>
    intro v hv
    have hv : field? slip.key r.fields = some v := hv
    rwa [hv, Option.bind_some] at hw
  | some w =>
    intro v hv
    obtain ⟨u, -, hu⟩ := Option.bind_eq_some_iff.mp hw
    have hv : field? slip.key (setField slip.key w r.fields) = some v := hv
    obtain rfl : w = v := Option.some.inj ((field?_setField_self _ _ _).symm.trans hv)
    exact repair?_of_repair? hu

/-- It stays so when another field is repaired. -/
theorem mend_of_ne {r : Repaired} {other : Slip} (h : slip.Free r.fields) (hne : slip ≠ other) :
    slip.Free (r.mend other).fields :=
  h.congr (field?_mend_of_ne (fun hkey => hne (key_injective hkey)) r)

end Slip.Free

/-! ## Parts -/

/-- Whether a repair leaves alone what it has repaired. -/
def Settles (repair : Json → Json × List Correction) : Prop :=
  ∀ v, repair (repair v).1 = ((repair v).1, [])

theorem repairArg_repairArg (fields : Fields) :
    repairArg (repairArg fields).fields = .none (repairArg fields).fields := by
  have hkind : Slip.kind.Free (mendKind fields).fields := .mend _ _
  by_cases href : field? "kind" (mendKind fields).fields = some (.str "ref")
  · rw [repairArg_of_ref href]
    have hmode : Slip.mode.Free (mendRef (mendKind fields)).fields := .mend _ _
    have hindex : Slip.returnIndex.Free (mendRef (mendKind fields)).fields :=
      (Slip.Free.mend _ _).mend_of_ne (by decide)
    have hkind : Slip.kind.Free (mendRef (mendKind fields)).fields :=
      (hkind.mend_of_ne (by decide)).mend_of_ne (by decide)
    -- the stages for references leave the kind as it is
    have href' : field? "kind" (mendRef (mendKind fields)).fields = some (.str "ref") := by
      rw [mendRef, field?_mend_of_ne (by decide), field?_mend_of_ne (by decide), href]
    have hnone : mendKind (mendRef (mendKind fields)).fields = .none _ := hkind.mend_none
    rw [repairArg_of_ref (by rwa [hnone]), hnone, mendRef, hindex.mend_none, hmode.mend_none]
  · rw [repairArg_of_ne_ref href]
    have hnone : mendKind (mendKind fields).fields = .none _ := hkind.mend_none
    rw [repairArg_of_ne_ref (by rwa [hnone]), hnone]

theorem settles_repairArgAt (place : Place) : Settles (repairArgAt place) := by
  intro v
  cases v with
  | obj fields =>
    rw [repairArgAt_obj, repairArgAt_obj, repairArg_repairArg]
    rfl
  | _ => rfl

theorem settles_repairToken (i : Nat) : Settles (repairToken i) := by
  intro v
  cases v with
  | obj fields =>
    have hfree : Slip.decimals.Free ((Repaired.none fields).mend .decimals).fields := .mend _ _
    rw [repairToken_obj, repairToken_obj, hfree.mend_none]
    rfl
  | _ => rfl

/-- A head whose two fields are free of their slips is left alone. -/
theorem repairHead_of_free (hfunction : Slip.function.Free fields)
    (htypes : Slip.typeArguments.Free fields) : repairHead fields = .none fields := by
  rw [repairHead_eq, hfunction.mend_none, htypes.mend_none]

theorem free_function_repairHead (fields : Fields) :
    Slip.function.Free (repairHead fields).fields := by
  rw [repairHead_eq]
  exact (Slip.Free.mend _ _).mend_of_ne (by decide)

theorem free_typeArguments_repairHead (fields : Fields) :
    Slip.typeArguments.Free (repairHead fields).fields := by
  rw [repairHead_eq]
  exact .mend _ _

/-! ## Lists -/

section Lists

variable {repair : Nat → Json → Json × List Correction}

theorem repairEach_repairEach (h : ∀ i, Settles (repair i)) (i : Nat) (xs : List Json) :
    repairEach repair i (repairEach repair i xs).1 = ((repairEach repair i xs).1, []) := by
  induction xs generalizing i with
  | nil => rfl
  | cons x rest ih =>
    show repairEach repair i ((repair i x).1 :: (repairEach repair (i + 1) rest).1) = _
    rw [repairEach, h i x, ih (i + 1)]
    rfl

theorem field?_repairList_of_ne {other : String} (h : other ≠ key) (fields : Fields) :
    field? other (repairList key repair fields).1 = field? other fields := by
  rcases repairList_cases key fields with he | ⟨xs, -, he⟩
  · rw [he]
  · rw [he]
    exact field?_setField_of_ne h _ fields

/-- A list that was repaired is left alone, whatever was set beside it. -/
theorem repairList_of_repaired (h : ∀ i, Settles (repair i))
    (heq : field? key fields' = field? key (repairList key repair fields).1) :
    repairList key repair fields' = (fields', []) := by
  cases hvalue : valueOfField fields key with
  | arr xs =>
    rw [repairList_of_arr hvalue, field?_setField_self] at heq
    have hxs : valueOfField fields' key = .arr (repairEach repair 0 xs).1 := by
      rw [valueOfField, heq]
      rfl
    rw [repairList_of_arr hxs, repairEach_repairEach h, setField_of_field? heq]
  | _ =>
    -- what is no list is not repaired at all
    have hsame : repairList key repair fields = (fields, []) := by rw [repairList, hvalue]
    rw [hsame] at heq
    have hvalue' : valueOfField fields' key = valueOfField fields key := by
      rw [valueOfField, heq, valueOfField]
    rw [repairList, hvalue', hvalue]

end Lists

/-! ## Steps and plans -/

theorem settles_repairStep (i : Nat) : Settles (repairStep i) := by
  intro v
  cases v with
  | obj fields =>
    have hkeep : ∀ slip : Slip,
        field? slip.key (repairArgs i (repairHead fields).fields).1 =
          field? slip.key (repairHead fields).fields :=
      fun slip => field?_repairList_of_ne slip.key_ne_args _
    have hhead : repairHead (repairArgs i (repairHead fields).fields).1 = .none _ :=
      repairHead_of_free ((free_function_repairHead fields).congr (hkeep _))
        ((free_typeArguments_repairHead fields).congr (hkeep _))
    have hargs : repairArgs i (repairArgs i (repairHead fields).fields).1 = (_, []) :=
      repairList_of_repaired (fun j => settles_repairArgAt (.arg i j)) rfl
    rw [repairStep_obj, repairStep_obj, hhead, Repaired.none, hargs]
    rfl
  | _ => rfl

/-- **A repaired plan is left as it is, without a correction.** -/
theorem repair_repair (p : Json) : repair (repair p).1 = ((repair p).1, []) := by
  cases p with
  | obj fields =>
    -- the repair of the tokens leaves the steps as they are
    have hkeep : ∀ fs, field? "steps" (repairList "tokens" repairToken fs).1 = field? "steps" fs :=
      field?_repairList_of_ne (by decide)
    have hsteps := repairList_of_repaired settles_repairStep
      (hkeep (repairList "steps" repairStep fields).1)
    have htokens : ∀ fs, repairList "tokens" repairToken (repairList "tokens" repairToken fs).1 =
        (_, []) := fun fs => repairList_of_repaired settles_repairToken rfl
    exact repair_of_repairList hsteps (htokens _)
  | _ => rfl

end MovePlan.Plan
