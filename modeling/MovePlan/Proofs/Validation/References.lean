import MovePlan.Proofs.Graph.Place
import MovePlan.Validation.Checks

/-!
# What the walk over the references accepts

A reference is grounded if the step it names is declared before, has the output it asks for as far as
that is known, and nothing before took that output away. The walk over the references of a graph has
no finding exactly when every reference is grounded (`checkRefs_eq_nil_iff`).

The walk remembers the labels of the steps it has passed and the outputs that were moved. As long as
it has no finding, these are exactly the labels and the moves that were met (`RefWalk.Covers`). After
a finding they need not be: the reference that is reported leaves no trace.
-/

namespace MovePlan.Validation

open Graph Error Numeric

variable {arity : String → Option Nat} {label : String} {declared : List String} {seen : List Ref}
  {w w' : RefWalk} {r : Ref}

/-- What a reference needs where some labels are declared and some references are met before it. -/
structure Grounded (arity : String → Option Nat) (declared : List String) (seen : List Ref)
    (r : Ref) : Prop where
  declared : r.step ∈ declared
  inRange : ∀ n, arity r.step = some n → r.index < n
  available : ∀ u ∈ seen, u.target = r.target → u.mode ≠ .move

/-- Whether a walk remembers exactly the labels and the moves that were met. -/
structure RefWalk.Covers (w : RefWalk) (declared : List String) (seen : List Ref) : Prop where
  declared : w.declared = declared
  moved : ∀ t, (w.moved.lookup t).isSome = true ↔ ∃ u ∈ seen, u.target = t ∧ u.mode = .move

theorem RefWalk.covers_nil : ({} : RefWalk).Covers [] [] := ⟨rfl, by simp⟩

/-- Steps that are passed become declared; the moves stay. -/
theorem RefWalk.Covers.declare (hw : w.Covers declared seen) (label : String) :
    { w with declared := w.declared ++ [label] : RefWalk }.Covers (declared ++ [label]) seen :=
  ⟨by rw [hw.declared], hw.moved⟩

/-! ## One reference -/

/-- The walk after a reference without a finding. -/
def RefWalk.pass (w : RefWalk) (label : String) (r : Ref) : RefWalk :=
  { w with moved := w.moved ++ movesOf label [r] }

/-- What the walk can say of a reference, and when: the first of three findings that applies, or
none. -/
inductive RefCase (arity : String → Option Nat) (label : String) (r : Ref) (w : RefWalk) :
    Option Issue × RefWalk → Prop where
  | undeclared (hd : r.step ∉ w.declared) :
    RefCase arity label r w (some (.referenceOrder (.str r.step)), w)
  | outOfRange (hd : r.step ∈ w.declared) (n : Nat) (ha : arity r.step = some n)
      (hn : n ≤ r.index) :
    RefCase arity label r w (some (.returnIndex r.step n r.index), w)
  | taken (hd : r.step ∈ w.declared) (hr : ∀ n, arity r.step = some n → r.index < n)
      (mover : String) (hm : w.moved.lookup r.target = some mover) :
    RefCase arity label r w (some (.repeatedMove r.step r.index r.mode mover), w)
  | free (hd : r.step ∈ w.declared) (hr : ∀ n, arity r.step = some n → r.index < n)
      (hm : w.moved.lookup r.target = none) :
    RefCase arity label r w (none, w.pass label r)

theorem refCase_checkMove (hd : r.step ∈ w.declared)
    (hr : ∀ n, arity r.step = some n → r.index < n) :
    RefCase arity label r w (checkRef.checkMove label r w) := by
  unfold checkRef.checkMove
  cases hm : w.moved.lookup r.target with
  | some mover => exact .taken hd hr mover hm
  | none =>
    have hfree : RefCase arity label r w (none, w.pass label r) := .free hd hr hm
    unfold RefWalk.pass at hfree
    by_cases hmode : r.mode = .move
    · simpa [hmode, movesOf] using hfree
    · simpa [hmode, movesOf] using hfree

/-- Every reference falls into one of the cases, whatever came before it. -/
theorem refCase_checkRef (arity : String → Option Nat) (label : String) (r : Ref) (w : RefWalk) :
    RefCase arity label r w (checkRef arity label r w) := by
  unfold checkRef
  split
  · next hd => exact .undeclared (by simpa using hd)
  · next hd =>
    have hd' : r.step ∈ w.declared := by simpa using hd
    split
    · next n ha =>
      split
      · next hn => exact .outOfRange hd' n ha hn
      · next hn =>
        refine refCase_checkMove hd' fun m hm => ?_
        rw [ha, Option.some.injEq] at hm
        omega
    · next ha => exact refCase_checkMove hd' fun m hm => by rw [ha] at hm; cases hm

/-- No issue is found exactly if the reference has what it needs. -/
theorem checkRef_eq_none_iff (hw : w.Covers declared seen) :
    (checkRef arity label r w).1 = none ↔ Grounded arity declared seen r := by
  have hmoved := hw.moved r.target
  have hcase := refCase_checkRef arity label r w
  generalize checkRef arity label r w = out at hcase ⊢
  cases hcase with
  | undeclared hd =>
    rw [hw.declared] at hd
    exact iff_of_false (by simp) fun h => hd h.declared
  | outOfRange hd n ha hn =>
    exact iff_of_false (by simp) fun h => Nat.not_lt.mpr hn (h.inRange n ha)
  | taken hd hr mover hm =>
    rw [hm] at hmoved
    obtain ⟨u, hu, ht, hmode⟩ := hmoved.mp rfl
    exact iff_of_false (by simp) fun h => h.available u hu ht hmode
  | free hd hr hm =>
    rw [hm] at hmoved
    rw [hw.declared] at hd
    refine iff_of_true rfl ⟨hd, hr, fun u hu ht hmode => ?_⟩
    cases hmoved.mpr ⟨u, hu, ht, hmode⟩

/-- A reference without a finding is remembered if it moves its output. -/
theorem RefWalk.Covers.pass (hw : w.Covers declared seen) (label : String) (r : Ref) :
    (w.pass label r).Covers declared (seen ++ [r]) := by
  refine ⟨hw.declared, fun t => ?_⟩
  simp only [RefWalk.pass, List.lookup_append, Option.isSome_or, Bool.or_eq_true, hw.moved,
    lookup_movesOf_isSome_iff, List.mem_append, or_and_right, exists_or]

/-- A walk without issues knows all references up to this one. -/
theorem RefWalk.Covers.checkRef (hw : w.Covers declared seen)
    (h : (checkRef arity label r w).1 = none) :
    (Validation.checkRef arity label r w).2.Covers declared (seen ++ [r]) := by
  have hcase := refCase_checkRef arity label r w
  generalize Validation.checkRef arity label r w = out at hcase h ⊢
  cases hcase with
  | undeclared | outOfRange | taken => cases h
  | free => exact hw.pass label r

/-! ## The arguments of a step -/

/-- The first argument is checked before the others. -/
theorem checkArgs_cons_eq_ok_iff {a : Arg} {rest : List Arg} {findings : List Finding} :
    checkArgs arity label (a :: rest) w = .ok (findings, w') ↔
      ∃ issue w₁ later, checkArg arity label a w = .ok (issue, w₁) ∧
        checkArgs arity label rest w₁ = .ok (later, w') ∧
        (issue.toList.map fun i => ⟨label, i⟩) ++ later = findings := by
  rw [checkArgs]
  simp only [bind_eq_ok_iff, Prod.exists, pure, Except.pure, Except.ok.injEq, Prod.mk.injEq]
  constructor
  · rintro ⟨issue, w₁, ha, later, w₂, hrest, rfl, rfl⟩
    exact ⟨issue, w₁, later, ha, hrest, rfl⟩
  · rintro ⟨issue, w₁, later, ha, hrest, rfl⟩
    exact ⟨issue, w₁, ha, later, w', hrest, rfl, rfl⟩

/-- An issue about a reference tells of no index but that of the reference. -/
theorem isTellable_of_checkRef (h : hasText r.index = true) :
    (checkRef arity label r w).1.all Issue.isTellable = true := by
  have hcase := refCase_checkRef arity label r w
  generalize checkRef arity label r w = out at hcase
  cases hcase with
  | undeclared | free => rfl
  | outOfRange | taken => exact h

theorem checkArg_ref_eq_ok_iff {issue : Option Issue} :
    checkArg arity label (.ref r) w = .ok (issue, w') ↔
      checkRef arity label r w = (issue, w') ∧ issue.all Issue.isTellable = true := by
  rw [checkArg]
  generalize checkRef arity label r w = out
  obtain ⟨issue', w₁⟩ := out
  dsimp only
  split
  · next h =>
    rw [Except.ok.injEq]
    refine (and_iff_left_of_imp ?_).symm
    rintro ⟨⟩
    exact h
  · next h =>
    refine iff_of_false nofun ?_
    rintro ⟨⟨⟩, h'⟩
    exact h h'

/-- Only references to a target that is no text, or with an index that has none, may fail to be
checked. -/
theorem checkArg_eq_ok (arity : String → Option Nat) (label : String) (w : RefWalk) {a : Arg}
    (ha : a.isTellable = true) :
    checkArg arity label a w =
      .ok (a.ref?.elim (none, w) fun r => checkRef arity label r w) := by
  cases a with
  | signer | literal => rfl
  | ref r => exact checkArg_ref_eq_ok_iff.mpr ⟨rfl, isTellable_of_checkRef ha⟩
  | strayRef | foreign => cases ha

theorem exists_checkArgs_eq_ok (arity : String → Option Nat) (label : String) {args : List Arg}
    (hp : ∀ a ∈ args, a.isTellable = true) (w : RefWalk) :
    ∃ findings w', checkArgs arity label args w = .ok (findings, w') := by
  induction args generalizing w with
  | nil => exact ⟨[], w, rfl⟩
  | cons a rest ih =>
    have ha := checkArg_eq_ok arity label w (hp a List.mem_cons_self)
    obtain ⟨later, w', hrest⟩ := ih (fun b hb => hp b (List.mem_cons_of_mem a hb)) _
    exact ⟨_, w', checkArgs_cons_eq_ok_iff.mpr ⟨_, _, later, ha, hrest, rfl⟩⟩

/-- The walk goes on without a finding over an argument and the ones after it. -/
theorem checkArgs_cons_eq_nil_iff {a : Arg} {rest : List Arg} (ha : a.isTellable = true) :
    checkArgs arity label (a :: rest) w = .ok ([], w') ↔
      (∀ r, a = .ref r → (checkRef arity label r w).1 = none) ∧
        checkArgs arity label rest
          (a.ref?.elim w fun r => (checkRef arity label r w).2) = .ok ([], w') := by
  rw [checkArgs_cons_eq_ok_iff, checkArg_eq_ok arity label w ha]
  simp only [List.append_eq_nil_iff, List.map_eq_nil_iff, Option.toList_eq_nil_iff,
    Except.ok.injEq]
  cases a with
  | signer | literal =>
    simp only [Arg.ref?, Option.elim_none, Prod.mk.injEq]
    constructor
    · rintro ⟨_, _, later, ⟨rfl, rfl⟩, hrest, -, rfl⟩
      exact ⟨fun r hr => (by cases hr), hrest⟩
    · rintro ⟨-, hrest⟩
      exact ⟨none, w, [], ⟨rfl, rfl⟩, hrest, rfl, rfl⟩
  | ref r =>
    simp only [Arg.ref?, Option.elim_some, Arg.ref.injEq, forall_eq']
    constructor
    · rintro ⟨_, w₁, later, hr, hrest, rfl, rfl⟩
      rw [hr]
      exact ⟨rfl, hrest⟩
    · rintro ⟨hr, hrest⟩
      exact ⟨none, _, [], Prod.ext hr rfl, hrest, rfl, rfl⟩
  | strayRef | foreign => cases ha

/-- The walk over the arguments of a step has no finding exactly when every reference among them is
grounded; then it remembers them all. -/
theorem checkArgs_eq_nil_iff {args : List Arg} (hp : ∀ a ∈ args, a.isTellable = true)
    (hw : w.Covers declared seen) :
    (∃ w', checkArgs arity label args w = .ok ([], w')) ↔
      ∀ j r, args[j]? = some (.ref r) →
        Grounded arity declared (seen ++ (args.take j).filterMap Arg.ref?) r := by
  induction args generalizing w seen with
  | nil => simp [checkArgs]
  | cons a rest ih =>
    have ha : a.isTellable = true := hp a List.mem_cons_self
    have hrest : ∀ b ∈ rest, b.isTellable = true := fun b hb => hp b (List.mem_cons_of_mem a hb)
    simp only [checkArgs_cons_eq_nil_iff ha, exists_and_left]
    -- the first argument is put to the test where `seen` ends, the others after it
    have hsplit : (∀ j r, (a :: rest)[j]? = some (.ref r) →
        Grounded arity declared (seen ++ ((a :: rest).take j).filterMap Arg.ref?) r) ↔
        (∀ r, a = .ref r → Grounded arity declared seen r) ∧
          ∀ j r, rest[j]? = some (.ref r) → Grounded arity declared
            (seen ++ (a :: rest.take j).filterMap Arg.ref?) r := by
      constructor
      · intro h
        refine ⟨fun r hr => ?_, fun j r hj => h (j + 1) r hj⟩
        simpa using h 0 r (by simp [hr])
      · rintro ⟨h0, hj⟩ j r hr
        cases j with
        | zero => simpa using h0 r (by simpa using hr)
        | succ j => exact hj j r hr
    rw [hsplit]
    cases a with
    | signer | literal =>
      simp only [Arg.ref?, Option.elim_none, reduceCtorEq, false_implies, implies_true, true_and,
        ih hrest hw, List.filterMap_cons]
    | ref r =>
      simp only [Arg.ref?, Option.elim_some, Arg.ref.injEq, forall_eq',
        checkRef_eq_none_iff hw, List.filterMap_cons]
      refine and_congr_right fun hr => ?_
      rw [ih hrest (hw.checkRef ((checkRef_eq_none_iff hw).mpr hr))]
      simp only [List.append_assoc, List.singleton_append]
    | strayRef | foreign => cases ha

theorem RefWalk.Covers.checkArgs {args : List Arg} (hp : ∀ a ∈ args, a.isTellable = true)
    (hw : w.Covers declared seen) (h : checkArgs arity label args w = .ok ([], w')) :
    w'.Covers declared (seen ++ args.filterMap Arg.ref?) := by
  induction args generalizing w seen with
  | nil =>
    cases h
    simpa using hw
  | cons a rest ih =>
    have ha : a.isTellable = true := hp a List.mem_cons_self
    have hrest : ∀ b ∈ rest, b.isTellable = true := fun b hb => hp b (List.mem_cons_of_mem a hb)
    obtain ⟨hfirst, hlater⟩ := (checkArgs_cons_eq_nil_iff ha).mp h
    cases a with
    | signer | literal => exact ih hrest hw hlater
    | ref r =>
      have := ih hrest (hw.checkRef (hfirst r rfl)) hlater
      rwa [List.append_assoc] at this
    | strayRef | foreign => cases ha

/-! ## The steps of a graph -/

theorem checkRefsFrom_cons_eq_ok_iff {s : Step} {rest : List Step} {findings : List Finding} :
    checkRefsFrom arity (s :: rest) w = .ok findings ↔
      ∃ here w₁ later, checkArgs arity s.label s.args w = .ok (here, w₁) ∧
        checkRefsFrom arity rest { w₁ with declared := w₁.declared ++ [s.label] } = .ok later ∧
        here ++ later = findings := by
  rw [checkRefsFrom]
  simp only [bind_eq_ok_iff, Prod.exists, pure, Except.pure, Except.ok.injEq]
  constructor
  · rintro ⟨here, w₁, hs, later, hrest, rfl⟩
    exact ⟨here, w₁, later, hs, hrest, rfl⟩
  · rintro ⟨here, w₁, later, hs, hrest, rfl⟩
    exact ⟨here, w₁, hs, later, hrest, rfl⟩

/-- The walk always comes to its end if the indices have a text. -/
theorem exists_checkRefsFrom_eq_ok (arity : String → Option Nat) {steps : List Step}
    (hp : ∀ s ∈ steps, ∀ a ∈ s.args, a.isTellable = true) (w : RefWalk) :
    ∃ findings, checkRefsFrom arity steps w = .ok findings := by
  induction steps generalizing w with
  | nil => exact ⟨[], rfl⟩
  | cons s rest ih =>
    obtain ⟨here, w₁, hs⟩ := exists_checkArgs_eq_ok arity s.label
      (hp s List.mem_cons_self) w
    obtain ⟨later, hrest⟩ := ih (fun t ht => hp t (List.mem_cons_of_mem s ht))
      { w₁ with declared := w₁.declared ++ [s.label] }
    exact ⟨_, checkRefsFrom_cons_eq_ok_iff.mpr ⟨here, w₁, later, hs, hrest, rfl⟩⟩

/-- It finds nothing exactly if every reference has what it needs where it stands. -/
theorem checkRefsFrom_eq_nil_iff {steps : List Step}
    (hp : ∀ s ∈ steps, ∀ a ∈ s.args, a.isTellable = true) (hw : w.Covers declared seen) :
    checkRefsFrom arity steps w = .ok [] ↔
      ∀ k s, steps[k]? = some s → ∀ j r, s.args[j]? = some (.ref r) →
        Grounded arity (declared ++ (steps.take k).map Step.label)
          (seen ++ (steps.take k).flatMap Step.refs ++ (s.args.take j).filterMap Arg.ref?) r := by
  induction steps generalizing w declared seen with
  | nil => simp [checkRefsFrom]
  | cons s rest ih =>
    have hs : ∀ a ∈ s.args, a.isTellable = true := hp s List.mem_cons_self
    have hrest : ∀ t ∈ rest, ∀ a ∈ t.args, a.isTellable = true :=
      fun t ht => hp t (List.mem_cons_of_mem s ht)
    -- past a step without a finding the walk remembers its label and its references
    have hnext : ∀ {w₁}, checkArgs arity s.label s.args w = .ok ([], w₁) →
        { w₁ with declared := w₁.declared ++ [s.label] : RefWalk }.Covers
          (declared ++ [s.label]) (seen ++ s.refs) :=
      fun h => (hw.checkArgs hs h).declare s.label
    constructor
    · intro h k t hk j r hr
      obtain ⟨here, w₁, later, hhere, hlater, hnil⟩ := checkRefsFrom_cons_eq_ok_iff.mp h
      obtain ⟨rfl, rfl⟩ := List.append_eq_nil_iff.mp hnil
      cases k with
      | zero =>
        rw [List.getElem?_cons_zero, Option.some.injEq] at hk
        subst hk
        simpa using (checkArgs_eq_nil_iff hs hw).mp ⟨w₁, hhere⟩ j r hr
      | succ k => simpa using (ih hrest (hnext hhere)).mp hlater k t hk j r hr
    · intro h
      have hfirst : ∃ w₁, checkArgs arity s.label s.args w = .ok ([], w₁) :=
        (checkArgs_eq_nil_iff hs hw).mpr fun j r hr => by simpa using h 0 s rfl j r hr
      obtain ⟨w₁, hhere⟩ := hfirst
      refine checkRefsFrom_cons_eq_ok_iff.mpr ⟨[], w₁, [], hhere, ?_, rfl⟩
      exact (ih hrest (hnext hhere)).mpr fun k t hk j r hr => by
        simpa using h (k + 1) t hk j r hr

theorem arityIn_label {g : StepGraph} {s : Step} (hs : s ∈ g.steps)
    (signatures : Signatures) :
    arityIn g signatures s.label = (signatures.lookup s.function.text).map Abi.Signature.arity := by
  rw [arityIn, StepGraph.get?_eq_some_iff.mpr ⟨hs, rfl⟩]
  cases h : signatures.lookup s.function.text <;> simp [h]

theorem exists_checkRefs_eq_ok {g : StepGraph} (hg : g.IsProper) (signatures : Signatures) :
    ∃ findings, checkRefs g signatures = .ok findings :=
  exists_checkRefsFrom_eq_ok _ hg {}

/-- **The walk over the references has no finding exactly when every reference is grounded.** -/
theorem checkRefs_eq_nil_iff {g : StepGraph} (hg : g.IsProper) (signatures : Signatures) :
    checkRefs g signatures = .ok [] ↔ ∀ p r, g.RefAt p r →
      Grounded (arityIn g signatures) ((g.steps.take p.step).map Step.label) (g.refsBefore p)
        r := by
  rw [checkRefs, checkRefsFrom_eq_nil_iff hg RefWalk.covers_nil]
  constructor
  · rintro h ⟨k, j⟩ r ⟨s, hs, hr⟩
    simpa [StepGraph.refsBefore, hs] using h k s hs j r hr
  · intro h k s hs j r hr
    simpa [StepGraph.refsBefore, hs] using h ⟨k, j⟩ r ⟨s, hs, hr⟩

end MovePlan.Validation
