import Mathlib.Data.List.Forall2
import MovePlan.Graph.Resolution
import MovePlan.Proofs.Graph.Place

/-!
# What the resolver does

One lemma for each operation. Recording a step under a new label puts its handles at the end. A
reference is resolved in one of four ways (`ResolveCase`). Resolving the arguments of a step changes
nothing but the moves, to which exactly the moving references are added, and gives for each argument
what it stands for among the recorded handles (`resolveArgs_eq_ok`).
-/

namespace MovePlan

open Graph

/-! ## Literals that can be read -/

/-- Whether every literal can be decoded. -/
def StepGraph.IsDecodable (g : StepGraph) : Prop :=
  ∀ s ∈ g.steps, ∀ v, Arg.literal v ∈ s.args → ∃ w, decodeLiteral v = .ok w

/-! ## What arguments stand for -/

/-- A handle as a reference in some mode gets it. -/
def Handle.used (h : Handle) (m : Mode) : Handle := if m = .move then h else { h with mode := m }

/-- What an argument stands for, given the signer and the handle for each reference. -/
inductive Graph.Arg.StandsFor (signer : Int) (provides : Ref → Handle → Prop) :
    Arg → Resolved → Prop where
  | signer : StandsFor signer provides .signer (.signer signer)
  | literal {v w : Json} (h : decodeLiteral v = .ok w) :
    StandsFor signer provides (.literal v) (.value w)
  | ref {r : Ref} {h : Handle} (hp : provides r h) :
    StandsFor signer provides (.ref r) (.handle (h.used r.mode))

/-- What stands for an argument depends only on what references resolve to. -/
theorem Graph.Arg.StandsFor.imp {signer : Int} {p q : Ref → Handle → Prop}
    (h : ∀ r hd, p r hd → q r hd) {a : Arg} {x : Resolved} (ha : a.StandsFor signer p x) :
    a.StandsFor signer q x := by
  cases ha with
  | signer => exact .signer
  | literal hv => exact .literal hv
  | ref hp => exact .ref (h _ _ hp)

namespace Resolver

variable {r r' : Resolver} {label user : String} {ref : Ref}

/-! ## Recording -/

/-- The outputs of a new label are put at the end. -/
theorem setOutputs_of_not_mem {handles : List Handle} {outputs : List (String × List Handle)}
    (h : label ∉ outputs.map Prod.fst) :
    setOutputs label handles outputs = outputs ++ [(label, handles)] := by
  induction outputs with
  | nil => rfl
  | cons o rest ih =>
    obtain ⟨k, v⟩ := o
    rw [List.map_cons, List.mem_cons, not_or] at h
    rw [setOutputs, if_neg (Ne.symm h.1), ih h.2, List.cons_append]

/-- A step with a new label is recorded after all others. -/
theorem record_of_not_mem (h : label ∉ r.recordedLabels) (handles : List Handle) :
    r.record label handles = { r with outputs := r.outputs ++ [(label, handles)] } := by
  rw [record, setOutputs_of_not_mem h]

/-- Outputs are there for the recorded labels only. -/
theorem outputs?_isSome_iff {l : String} : (r.outputs? l).isSome = true ↔ l ∈ r.recordedLabels := by
  simp only [outputs?, recordedLabels, List.lookup_isSome_iff, List.mem_map, beq_iff_eq,
    eq_comm (a := l)]

/-! ## One reference -/

/-- The resolver after a reference that is resolved. -/
def pass (r : Resolver) (user : String) (ref : Ref) : Resolver :=
  { r with moved := r.moved ++ movesOf user [ref] }

theorem outOfBounds_of_hasText (h : Numeric.hasText ref.index = true) (arity : Nat) (user : String) :
    outOfBounds ref arity user = .returnIndexOutOfBounds ref.step ref.index arity user :=
  if_pos h

/-- How a reference is resolved, and when: the first of three failures that applies, or the handle
that is recorded. -/
inductive ResolveCase (user : String) (ref : Ref) (r : Resolver) :
    Except Error Handle × Resolver → Prop where
  | unknown (ho : r.outputs? ref.step = none) :
    ResolveCase user ref r (.error (.unknownStep (.str ref.step) user r.recordedLabels), r)
  | outOfRange {handles : List Handle} (ho : r.outputs? ref.step = some handles)
      (hi : handles.length ≤ ref.index) :
    ResolveCase user ref r (.error (outOfBounds ref handles.length user), r)
  | taken {handles : List Handle} (ho : r.outputs? ref.step = some handles)
      (hi : ref.index < handles.length) {mover : String} (hm : r.mover? ref.target = some mover) :
    ResolveCase user ref r (.error (.alreadyMoved ref.step ref.index mover user), r)
  | given {handles : List Handle} (ho : r.outputs? ref.step = some handles) {h : Handle}
      (hi : handles[ref.index]? = some h) (hm : r.mover? ref.target = none) :
    ResolveCase user ref r (.ok (h.used ref.mode), r.pass user ref)

/-- One case for each way in which a reference is resolved or refused. -/
theorem resolveCase_resolveRef (r : Resolver) (ref : Ref) (user : String) :
    ResolveCase user ref r (r.resolveRef ref user) := by
  unfold resolveRef
  cases ho : r.outputs? ref.step with
  | none => exact .unknown ho
  | some handles =>
    cases hi : handles[ref.index]? with
    | none =>
      simp only [hi]
      exact .outOfRange ho (List.getElem?_eq_none_iff.mp hi)
    | some h =>
      simp only [hi]
      cases hm : r.mover? ref.target with
      | some mover => exact .taken ho (List.getElem?_eq_some_iff.mp hi).1 hm
      | none =>
        have hgiven : ResolveCase user ref r (.ok (h.used ref.mode), r.pass user ref) :=
          .given ho hi hm
        unfold Handle.used pass at hgiven
        by_cases hmode : ref.mode = .move
        · simpa [hmode, movesOf] using hgiven
        · simpa [hmode, movesOf] using hgiven

/-! ## The arguments of a step -/

/-- The arguments are resolved from left to right, each after those before it. -/
theorem resolveArgs_cons_eq_ok {a : Arg} {rest : List Arg} {xs : List Resolved}
    (h : r.resolveArgs user (a :: rest) = (.ok xs, r')) :
    ∃ x r₁ later, r.resolveArg a user = (.ok x, r₁) ∧
      r₁.resolveArgs user rest = (.ok later, r') ∧ xs = x :: later := by
  rw [resolveArgs] at h
  split at h
  · cases h
  · next x r₁ hx =>
    split at h
    · cases h
    · next later r₂ hrest =>
      cases h
      exact ⟨x, r₁, later, hx, hrest, rfl⟩

/-- The handle that is recorded for a reference. -/
def Provides (r : Resolver) (ref : Ref) (h : Handle) : Prop :=
  ∃ handles, r.outputs? ref.step = some handles ∧ handles[ref.index]? = some h

/-- One argument that is resolved stands for the result and adds its move. -/
theorem resolveArg_eq_ok {a : Arg} {x : Resolved} (h : r.resolveArg a user = (.ok x, r')) :
    a.StandsFor r.signer r.Provides x ∧
      r' = { r with moved := r.moved ++ movesOf user a.ref?.toList } := by
  cases a with
  | signer =>
    cases h
    exact ⟨.signer, by simp [Arg.ref?, movesOf]⟩
  | literal v =>
    rw [resolveArg] at h
    split at h
    · next w hw =>
      cases h
      exact ⟨.literal hw, by simp [Arg.ref?, movesOf]⟩
    · cases h
  | ref ref =>
    rw [resolveArg] at h
    have hcase := resolveCase_resolveRef r ref user
    generalize r.resolveRef ref user = out at hcase h
    cases hcase with
    | unknown | outOfRange | taken => cases h
    | given ho hi hm =>
      cases h
      exact ⟨.ref ⟨_, ho, hi⟩, rfl⟩
  | strayRef step => cases step <;> cases h
  | foreign => cases h

/-- **Arguments that are resolved stand for the results, and only their moves are added.** -/
theorem resolveArgs_eq_ok {args : List Arg} {xs : List Resolved}
    (h : r.resolveArgs user args = (.ok xs, r')) :
    List.Forall₂ (Arg.StandsFor r.signer r.Provides) args xs ∧
      r' = { r with moved := r.moved ++ movesOf user (args.filterMap Arg.ref?) } := by
  induction args generalizing r xs with
  | nil =>
    cases h
    exact ⟨.nil, by simp [movesOf]⟩
  | cons a rest ih =>
    obtain ⟨x, r₁, later, hx, hlater, rfl⟩ := resolveArgs_cons_eq_ok h
    obtain ⟨hstands, rfl⟩ := resolveArg_eq_ok hx
    obtain ⟨hrest, rfl⟩ := ih hlater
    have hrefs : (a :: rest).filterMap Arg.ref? = a.ref?.toList ++ rest.filterMap Arg.ref? := by
      cases ha : a.ref? <;> simp [ha]
    exact ⟨.cons hstands hrest, by rw [hrefs, movesOf_append, List.append_assoc]⟩

/-- A step that is resolved becomes a call of its function. -/
theorem resolveStep_eq_ok {s : Step} {c : ResolvedCall} (h : r.resolveStep s = (.ok c, r')) :
    (c.label = s.label ∧ c.function = s.function ∧ c.typeArguments = s.typeArguments ∧
      List.Forall₂ (Arg.StandsFor r.signer r.Provides) s.args c.args) ∧
      r' = { r with moved := r.moved ++ movesOf s.label s.refs } := by
  rw [resolveStep] at h
  split at h
  · cases h
  · next xs r₁ hxs =>
    cases h
    obtain ⟨hstands, hr⟩ := resolveArgs_eq_ok hxs
    exact ⟨⟨rfl, rfl, rfl, hstands⟩, hr⟩

end Resolver

end MovePlan
