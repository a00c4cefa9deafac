import MovePlan.Compose.Session
import MovePlan.Proofs.Diagnosis.Rules
import MovePlan.Proofs.Simulation.Faults

/-!
# What refuses no graph

A graph is refused with an error of two kinds (`Error.IsRefusal`). Reading the response of a simulator
raises others: those of an outcome (`Error.IsOfOutcome`), of balances that are no integers, of
differences that cannot be shown, and of integers with too many digits.
-/

namespace MovePlan

open Validation Simulation Tracking Plan Error

/-- The errors that refuse a graph: it has no steps, or hard findings. -/
inductive Error.IsRefusal : Error → Prop where
  | emptyGraph : IsRefusal .emptyGraph
  | validationFailed (findings : List Finding) : IsRefusal (.validationFailed findings)

/-- Whether a computation refuses no graph, whatever else may be wrong. -/
abbrev Error.RefusesNot {α : Type} (x : Except Error α) : Prop := FailsBy (fun e => ¬e.IsRefusal) x

theorem Error.IsOfOutcome.not_isRefusal {e : Error} (h : e.IsOfOutcome) : ¬e.IsRefusal := by
  cases h <;> rintro ⟨⟩

namespace Simulation

/-- What is wrong with a write refuses no graph. -/
theorem writesOf_refuses_not (registry : Registry) (position : Option Position)
    (changes : List Json.Fields) : RefusesNot (writesOf registry position changes) := by
  induction changes with
  | nil => exact .ok _
  | cons change rest ih =>
    refine ((storeWrite?_fails change).imp fun _ he => he.not_isRefusal).bind fun write _ => ?_
    cases write with
    | some write => exact ih.bind fun _ _ => .ok _
    | none =>
      refine ((vaultChange?_fails position change).imp fun e he => ?_).bind
        fun _ _ => ih.bind fun _ _ => .ok _
      rcases he with he | ⟨rfl, -⟩
      · exact he.not_isRefusal
      · rintro ⟨⟩

/-- A summary refuses no graph, whatever is wrong with the cost of the gas. -/
theorem summarize_refuses_not (o : Outcome) (registry : Registry) (position : Option Position) :
    RefusesNot (summarize o registry position) := by
  refine (writesOf_refuses_not registry position o.changes).bind fun _ _ =>
    ((gasCost_fails o).imp fun e he => ?_).bind fun _ _ => .ok _
  rw [he]
  rintro ⟨⟩

end Simulation

namespace Tracking

variable {reader : BalanceReader}

/-- A balance that is no integer is told in other ways. -/
theorem toInteger_refuses_not (j : Json) : RefusesNot j.toInteger := by
  cases j with
  | int | bool => exact .ok _
  | float x =>
    cases x with
    | nan | infinity => exact .error nofun
    | _ => exact .ok _
  | str s =>
    rw [Json.toInteger]
    split
    · exact .ok _
    · unfold Json.noInteger
      split <;> exact .error nofun
  | null | arr | obj => exact .error nofun

/-- A snapshot refuses no graph, if its reader does not. -/
theorem capture_refuses_not (h : ∀ owner asset, RefusesNot (reader owner asset)) (owner : String)
    (tokens : List Token) : RefusesNot (capture reader owner tokens) := by
  have hread : RefusesNot (readAll reader owner tokens) := by
    induction tokens with
    | nil => exact .ok _
    | cons t rest ih => exact (h owner t.metadata).bind fun _ _ => ih.bind fun _ _ => .ok _
  have hall : ∀ answers, RefusesNot (integersOf answers) := by
    intro answers
    induction answers with
    | nil => exact .ok _
    | cons answer rest ih =>
      exact (toInteger_refuses_not answer.2).bind fun _ _ => ih.bind fun _ _ => .ok _
  exact hread.bind fun answers _ => (hall answers).bind fun _ _ => .ok _

/-- A difference without a text is told in other ways. -/
theorem formatDelta_refuses_not (delta decimals : Int) : RefusesNot (formatDelta delta decimals) := by
  refine FailsBy.bind ?_ fun _ _ => .ok _
  unfold formatAmount scaledAmount
  split
  · split
    · exact .error nofun
    · dsimp only
      split
      · exact .error nofun
      · exact .ok _
  · split
    · exact .ok _
    · exact .error nofun

theorem diffSince_refuses_not (before : Snapshot) (after : Balances) (tokens : List Token)
    (vault : Option VaultTransition) : RefusesNot (diffSince before after tokens vault) := by
  have hall : ∀ tokens, RefusesNot (deltasOf before.balances after tokens) := by
    intro tokens
    induction tokens with
    | nil => exact .ok _
    | cons t rest ih =>
      have hdelta : RefusesNot (deltaOf before.balances after t) :=
        (formatDelta_refuses_not _ _).bind fun _ _ => .ok _
      exact hdelta.bind fun _ _ => ih.bind fun _ _ => .ok _
  exact (hall tokens).bind fun _ _ => .ok _

end Tracking

namespace Compose

variable {σ : Type}

/-- A difference of balances refuses no graph, if their reader does not. -/
theorem balanceDiff_refuses_not {reader : BalanceReader}
    (hreader : ∀ owner asset, RefusesNot (reader owner asset)) (owner : String)
    (tokens : List Token) (o : Outcome) :
    RefusesNot (Session.balanceDiff reader owner tokens o) :=
  (capture_refuses_not hreader owner tokens).bind fun before _ =>
    ((extractBalances_fails o tokens owner).imp fun _ he => he.not_isRefusal).bind
      fun _ _ => diffSince_refuses_not before _ tokens none

/-- A failure that cannot be diagnosed refuses no graph, nor does gas without a text. -/
theorem composedOf_refuses_not (labels : List String) (b : Built) (simulation : Summary)
    (diff : Option Diff) : RefusesNot (Session.composedOf labels b simulation diff) := by
  have herrors : RefusesNot
      (Diagnosis.diagnoseOutcome simulation.success simulation.status .null) := by
    unfold Diagnosis.diagnoseOutcome
    split
    · exact .ok _
    · intro e he
      obtain ⟨digits, rfl⟩ :=
        Diagnosis.exists_of_parseAbort_eq_error (Diagnosis.diagnose_eq_error_iff.1 he)
      rintro ⟨⟩
  have hgas : RefusesNot (discard (Numeric.writeInt simulation.gasUsed)) := by
    unfold Numeric.writeInt
    split
    · exact .ok _
    · exact .error nofun
  exact herrors.bind fun _ _ => hgas.bind fun _ _ => .ok _

/-- Reading a response refuses no graph. -/
theorem compose_refuses_not {reader : Option BalanceReader}
    (hreader : ∀ r ∈ reader, ∀ owner asset, RefusesNot (r owner asset))
    (s : Session σ) (b : Built) (response : Json) :
    RefusesNot (Session.compose reader s b response).1 := by
  have hstart : RefusesNot (do
      let o ← Outcome.ofResponse response
      let summary ← summarize o (Registry.ofTokens s.tokens) none
      return (o, summary)) :=
    ((ofResponse_fails response).imp fun _ he => he.not_isRefusal).bind fun o _ =>
      (summarize_refuses_not o _ none).bind fun _ _ => .ok _
  unfold Session.compose
  dsimp only
  split
  next e he => exact .error (hstart e he)
  next o simulation _ =>
    cases reader with
    | none => exact composedOf_refuses_not _ b simulation none
    | some reader =>
      exact (balanceDiff_refuses_not (hreader reader rfl) s.owner s.tokens o).bind
        fun diff _ => composedOf_refuses_not _ b simulation (some diff)

end Compose

end MovePlan
