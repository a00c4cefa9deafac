import MovePlan.Plan.Repair
import MovePlan.Proofs.Json.Fields

/-!
# Where two plans differ

A correction names a field of a plan: its place tells the step, the argument or the token, and its
slip the key. Two plans agree but for some of these fields (`PlansAgree`) if they are the same
everywhere else, with the same steps, arguments and tokens in the same order. What a correction names
then has the same value in both, or two values that are related (`PlansAgree.value?`).
-/

namespace MovePlan.Plan

open Json

/-- The key of the field that a slip is in. -/
def Slip.key : Slip → String
  | returnIndex => "returnIndex"
  | mode => "mode"
  | kind => "kind"
  | function => "function"
  | typeArguments => "typeArguments"
  | decimals => "decimals"

/-- Each slip has a field of its own. -/
theorem Slip.key_injective {s t : Slip} (h : s.key = t.key) : s = t := by
  cases s <;> cases t <;> first | rfl | exact absurd h (by decide)

/-- No slip is about the arguments as a whole. -/
theorem Slip.key_ne_args (s : Slip) : s.key ≠ "args" := by
  cases s <;> decide

/-- The slips that the part of a plan at a place may have. -/
def Place.slips : Place → List Slip
  | step _ => [.function, .typeArguments]
  | arg _ _ => [.kind, .returnIndex, .mode]
  | token _ => [.decimals]

/-- The list of a plan that a place lies in. -/
def Place.list : Place → String
  | step _ | arg _ _ => "steps"
  | token _ => "tokens"

/-- Which item of that list. -/
def Place.index : Place → Nat
  | step i | arg i _ | token i => i

/-- The part at a place, seen from the item. -/
def Place.within : Place → Json → Option Json
  | arg _ j, item => (item.get? "args").bind (Json.item? j)
  | _, item => some item

/-- The value in an item of a list of the field that a correction names. -/
def Correction.valueIn? (c : Correction) (item : Json) : Option Json :=
  (c.place.within item).bind (Json.get? c.slip.key)

/-- The value in a plan of the field that a correction names. -/
def Correction.value? (c : Correction) (plan : Json) : Option Json :=
  ((plan.get? c.place.list).bind (Json.item? c.place.index)).bind c.valueIn?

/-! ## Agreement -/

/-- Whether the values of a field are related as those of a slip that the part at a place may have. -/
def SlipAt (R : Correction → Json → Json → Prop) (place : Place) (key : String) (v w : Json) : Prop :=
  ∃ slip ∈ place.slips, slip.key = key ∧ R ⟨place, slip⟩ v w

/-- Whether two values agree but where the fields of the part at a place are related. -/
def PartsAgree (R : Correction → Json → Json → Prop) (place : Place) : Json → Json → Prop :=
  ObjectsAgree (SlipAt R place)

/-- Whether the values of a step's field are related as those of a slip, or are lists of arguments that
agree. -/
def StepField (R : Correction → Json → Json → Prop) (i : Nat) (key : String) (v w : Json) : Prop :=
  SlipAt R (.step i) key v w ∨ (key = "args" ∧ ItemsAgree (fun j => PartsAgree R (.arg i j)) v w)

/-- Whether two values agree but where the fields of step `i` and of its arguments are related. -/
def StepsAgree (R : Correction → Json → Json → Prop) (i : Nat) : Json → Json → Prop :=
  ObjectsAgree (StepField R i)

/-- Whether the values of a plan's field are lists of steps or of tokens that agree. -/
def PlanField (R : Correction → Json → Json → Prop) (key : String) (v w : Json) : Prop :=
  (key = "steps" ∧ ItemsAgree (StepsAgree R) v w) ∨
    (key = "tokens" ∧ ItemsAgree (fun i => PartsAgree R (.token i)) v w)

/-- Whether two plans agree but where the fields that corrections may name are related. -/
def PlansAgree (R : Correction → Json → Json → Prop) : Json → Json → Prop :=
  ObjectsAgree (PlanField R)

variable {R S T : Correction → Json → Json → Prop} {c : Correction}
  {place : Place} {i : Nat} {u v w : Json}

/-! ### One relation from others -/

theorem SlipAt.imp (hRS : ∀ c v w, R c v w → S c v w) {key : String} (h : SlipAt R place key v w) :
    SlipAt S place key v w := by
  obtain ⟨slip, hslip, hkey, hR⟩ := h
  exact ⟨slip, hslip, hkey, hRS _ _ _ hR⟩

/-- Parts that differ in some ways only differ in more ways only. -/
theorem PartsAgree.imp (hRS : ∀ c v w, R c v w → S c v w) (h : PartsAgree R place v w) :
    PartsAgree S place v w :=
  ObjectsAgree.imp (fun _ _ _ => SlipAt.imp hRS) h

theorem StepField.imp (hRS : ∀ c v w, R c v w → S c v w) {key : String} (h : StepField R i key v w) :
    StepField S i key v w :=
  Or.imp (SlipAt.imp hRS) (And.imp_right (ItemsAgree.imp fun _ _ _ => PartsAgree.imp hRS)) h

theorem StepsAgree.imp (hRS : ∀ c v w, R c v w → S c v w) (h : StepsAgree R i v w) :
    StepsAgree S i v w :=
  ObjectsAgree.imp (fun _ _ _ => StepField.imp hRS) h

theorem PlanField.imp (hRS : ∀ c v w, R c v w → S c v w) {key : String} (h : PlanField R key v w) :
    PlanField S key v w :=
  Or.imp (And.imp_right (ItemsAgree.imp fun _ _ _ => StepsAgree.imp hRS))
    (And.imp_right (ItemsAgree.imp fun _ _ _ => PartsAgree.imp hRS)) h

/-- Plans that differ in some ways only differ in more ways only. -/
theorem PlansAgree.imp (hRS : ∀ c v w, R c v w → S c v w) (h : PlansAgree R v w) :
    PlansAgree S v w :=
  ObjectsAgree.imp (fun _ _ _ => PlanField.imp hRS) h

/-- Two differences of a field are one if they can be joined. -/
theorem SlipAt.joins (hT : Joins R S T) (place : Place) :
    Joins (SlipAt R place) (SlipAt S place) (SlipAt T place) where
  left _ _ _ := SlipAt.imp hT.left
  right _ _ _ := SlipAt.imp hT.right
  trans := by
    rintro key u v w ⟨slip, hslip, hkey, hR⟩ ⟨slip', -, hkey', hS⟩
    obtain rfl := Slip.key_injective (hkey.trans hkey'.symm)
    exact ⟨slip, hslip, hkey, hT.trans _ _ _ _ hR hS⟩

/-- Parts that differ from one between them differ in the joined ways only. -/
theorem PartsAgree.trans (hT : Joins R S T) (h : PartsAgree R place u v)
    (h' : PartsAgree S place v w) : PartsAgree T place u w :=
  ObjectsAgree.trans (SlipAt.joins hT place) h h'

theorem PartsAgree.joins {ι : Type} (hT : Joins R S T) (place : ι → Place) :
    Joins (fun i => PartsAgree R (place i)) (fun i => PartsAgree S (place i))
      (fun i => PartsAgree T (place i)) where
  left _ _ _ := PartsAgree.imp hT.left
  right _ _ _ := PartsAgree.imp hT.right
  trans _ _ _ _ := PartsAgree.trans hT

/-- Two differences of a step's field are one, in its own fields and in its arguments. -/
theorem StepField.joins (hT : Joins R S T) (i : Nat) :
    Joins (StepField R i) (StepField S i) (StepField T i) where
  left _ _ _ := StepField.imp hT.left
  right _ _ _ := StepField.imp hT.right
  trans := by
    -- no slip is in `args`, so that both are slips or both are lists
    rintro key u v w (hR | ⟨hkey, hR⟩) (hS | ⟨hkey', hS⟩)
    · exact Or.inl ((SlipAt.joins hT _).trans _ _ _ _ hR hS)
    · obtain ⟨slip, -, hslip, -⟩ := hR
      exact absurd (hslip.trans hkey') slip.key_ne_args
    · obtain ⟨slip, -, hslip, -⟩ := hS
      exact absurd (hslip.trans hkey) slip.key_ne_args
    · exact Or.inr ⟨hkey, hR.trans (PartsAgree.joins hT (.arg i)) hS⟩

/-- Steps that differ from one between them differ in the joined ways only. -/
theorem StepsAgree.trans (hT : Joins R S T) (h : StepsAgree R i u v) (h' : StepsAgree S i v w) :
    StepsAgree T i u w :=
  ObjectsAgree.trans (StepField.joins hT i) h h'

theorem StepsAgree.joins (hT : Joins R S T) : Joins (StepsAgree R) (StepsAgree S) (StepsAgree T) where
  left _ _ _ := StepsAgree.imp hT.left
  right _ _ _ := StepsAgree.imp hT.right
  trans _ _ _ _ := StepsAgree.trans hT

/-- Two differences of a plan's field are one, in its tokens and in its steps. -/
theorem PlanField.joins (hT : Joins R S T) : Joins (PlanField R) (PlanField S) (PlanField T) where
  left _ _ _ := PlanField.imp hT.left
  right _ _ _ := PlanField.imp hT.right
  trans := by
    rintro key u v w (⟨hkey, hR⟩ | ⟨hkey, hR⟩) (⟨hkey', hS⟩ | ⟨hkey', hS⟩)
    · exact Or.inl ⟨hkey, hR.trans (StepsAgree.joins hT) hS⟩
    · exact absurd (hkey.symm.trans hkey') (by decide)
    · exact absurd (hkey.symm.trans hkey') (by decide)
    · exact Or.inr ⟨hkey, hR.trans (PartsAgree.joins hT .token) hS⟩

/-- Plans that differ from one between them differ in the joined ways only. -/
theorem PlansAgree.trans (hT : Joins R S T) (h : PlansAgree R u v) (h' : PlansAgree S v w) :
    PlansAgree T u w :=
  ObjectsAgree.trans (PlanField.joins hT) h h'

/-- Plans that agree but for nothing are equal. -/
theorem PlansAgree.eq_of_forall_not (h : PlansAgree R v w) (hR : ∀ c v w, ¬ R c v w) : v = w := by
  have hslip : ∀ place key v w, ¬ SlipAt R place key v w := by
    rintro place key v w ⟨slip, -, -, hslip⟩
    exact hR _ v w hslip
  have hpart : ∀ place v w, PartsAgree R place v w → v = w := fun place v w hpart =>
    ObjectsAgree.eq_of_imp hpart fun key v w h => absurd h (hslip place key v w)
  have hstep : ∀ i v w, StepsAgree R i v w → v = w := fun i v w hstep =>
    ObjectsAgree.eq_of_imp hstep fun key v w h => h.elim
      (fun h => absurd h (hslip _ key v w)) fun h => h.2.eq_of_imp fun j => hpart (.arg i j)
  exact ObjectsAgree.eq_of_imp h fun key v w h => h.elim
    (fun h => h.2.eq_of_imp hstep) fun h => h.2.eq_of_imp fun i => hpart (.token i)

/-! ### What corrections name -/

/-- At the field of a correction, the values of two parts are the same or differ by it. -/
theorem PartsAgree.get? (h : PartsAgree R c.place v w) :
    OptionsAgree (R c) (v.get? c.slip.key) (w.get? c.slip.key) := by
  refine (ObjectsAgree.get? h c.slip.key).imp ?_
  rintro x y ⟨slip, -, hkey, hR⟩
  rwa [Slip.key_injective hkey] at hR

/-- At the place of a correction, the values in two steps are the same or differ by it. -/
theorem StepsAgree.valueIn? (h : StepsAgree R c.place.index v w) (hc : c.place.list = "steps") :
    OptionsAgree (R c) (c.valueIn? v) (c.valueIn? w) := by
  obtain ⟨place, slip⟩ := c
  cases place with
  | step i =>
    refine (ObjectsAgree.get? h slip.key).imp ?_
    rintro x y (⟨slip', -, hkey, hR⟩ | ⟨hkey, -⟩)
    · rwa [Slip.key_injective hkey] at hR
    · exact absurd hkey slip.key_ne_args
  | arg i j =>
    refine OptionsAgree.bind (R := PartsAgree R (.arg i j)) ?_ fun x y hxy =>
      PartsAgree.get? (c := ⟨.arg i j, slip⟩) hxy
    refine (ObjectsAgree.get? h "args").bind ?_
    rintro x y (⟨slip', -, hkey, -⟩ | ⟨-, hitems⟩)
    · exact absurd hkey slip'.key_ne_args
    · exact hitems.item? j
  | token i => exact absurd hc (by simp [Place.list])

/-- **Where plans agree, a field that a correction names has the same value in both, or two values
that are related.** -/
theorem PlansAgree.value? (h : PlansAgree R v w) (c : Correction) :
    OptionsAgree (R c) (c.value? v) (c.value? w) := by
  by_cases hc : c.place.list = "steps"
  · refine OptionsAgree.bind (R := StepsAgree R c.place.index) ?_ fun x y hxy => hxy.valueIn? hc
    refine (ObjectsAgree.get? h c.place.list).bind ?_
    rintro x y (⟨-, hitems⟩ | ⟨hkey, -⟩)
    · exact hitems.item? c.place.index
    · rw [hc] at hkey
      exact absurd hkey (by decide)
  · obtain ⟨i, hi⟩ : ∃ i, c.place = .token i := by
      cases hp : c.place with
      | token i => exact ⟨i, rfl⟩
      | _ => exact absurd (by rw [hp]; rfl) hc
    refine OptionsAgree.bind (R := PartsAgree R (.token i)) ?_ fun x y hxy => ?_
    · rw [hi]
      refine (ObjectsAgree.get? h "tokens").bind ?_
      rintro x y (⟨hkey, -⟩ | ⟨-, hitems⟩)
      · exact absurd hkey (by decide)
      · exact hitems.item? i
    · rw [Correction.valueIn?, Correction.valueIn?, hi]
      exact PartsAgree.get? (hi ▸ hxy)

end MovePlan.Plan
