import Mathlib.Algebra.Ring.Int.Defs
import MovePlan.Proofs.Flow.Run
import MovePlan.Proofs.Tracking.Expectations

/-!
# What a dry run has to say

The verdicts of a call compare two positions: the one that was shown last before the call, and the one
that was shown last up to it. A call whose response shows no position is so judged by the one before
it, and until one is shown no expectation about the position is met. Balances are judged by the
deltas of the call itself.

`StageFollows` says this of one call. The report puts the calls together: every expectation that is
not met has its warning, calls first and expectations second (`SimulatesAll.warnings`); errors, success
and gas are read off the results in their order; and the position at the end is the one that was shown
last.
-/

namespace MovePlan.Flow

open Simulation Tracking Diagnosis

section

variable (p : Services) (f : Flow)

/-- Whether the call at a place meets an expectation: by the deltas of its result, and by the position
that was shown last before it and the one that was shown last up to it. -/
abbrev MetAt (place : Nat) (r : StageResult) (e : Expectation) : Prop :=
  e.IsMet f.tokens r.deltas (latest? (shownVault? p f) place) (latest? (shownVault? p f) (place + 1))

/-- The result of the call at a place follows from its response and the position that is carried to
it. -/
structure StageFollows (place : Nat) (s : Stage) (r : StageResult) : Prop where
  label : r.label = s.label
  outcome : ∃ o, Reads p f place s o ∧ r.success = o.success ∧ r.status = o.status ∧
    r.gasUsed = o.gasUsed
  /-- Each expectation has its verdict, which passes exactly when it is met. -/
  verdicts : List.Forall₂ (fun e v => v.description = e.description ∧
    (v.passed = true ↔ MetAt p f place r e)) s.expectations r.verdicts

/-- The expectations that calls from a place on do not meet, each with the label of its call. -/
def unmet : Nat → List Stage → List StageResult → List (Json × Expectation)
  | place, s :: stages, r :: results =>
    (s.expectations.filter fun e => ¬ MetAt p f place r e).map (fun e => (s.label, e)) ++
      unmet (place + 1) stages results
  | _, _, _ => []

end

/-- The warning about an expectation of a call. -/
structure WarnsOf (u : Json × Expectation) (w : Diagnosis) : Prop where
  severity : w.severity = .warning
  code : w.code = "EXPECTATION_FAILED"
  title : w.title = "Expectation failed: " ++ u.2.description.display
  step : w.step = u.1

/-- A call that failed, with a status that says so. -/
def StageResult.HasFailure (r : StageResult) : Prop :=
  r.success = false ∧ r.status ≠ "" ∧ r.status ≠ successStatus

instance : DecidablePred StageResult.HasFailure := fun r =>
  inferInstanceAs (Decidable (r.success = false ∧ r.status ≠ "" ∧ r.status ≠ successStatus))

variable {p : Services} {f : Flow} {initial : Snapshot} {place : Nat} {before after last : Carried}
  {s : Stage} {r : StageResult} {stages : List Stage} {results : List StageResult}

/-! ## Verdicts and warnings -/

theorem Simulates.follows (h : Simulates p f place before s r after)
    (hbefore : Carries p f initial place before) : StageFollows p f place s r := by
  have hverdicts := judgeAll_eq_ok (tokens_of_deltasOf h.deltas) h.verdicts
  rw [hbefore.vault, (h.carries hbefore).vault] at hverdicts
  exact ⟨h.label, h.outcome, hverdicts⟩

/-- A call has one warning for each expectation that it does not meet, in their order. -/
theorem StageFollows.warnings (h : StageFollows p f place s r) :
    List.Forall₂ WarnsOf
      ((s.expectations.filter fun e => ¬ MetAt p f place r e).map fun e => (s.label, e))
      r.warnings := by
  have hfailed := List.rel_filter (p := fun e => ¬ MetAt p f place r e) (q := fun v => !v.passed)
    (fun e v hv => by simp [← hv.2]) h.verdicts
  rw [StageResult.warnings, List.forall₂_map_left_iff, List.forall₂_map_right_iff]
  refine hfailed.imp fun e v hv => ⟨rfl, rfl, ?_, h.label⟩
  rw [← hv.1]
  rfl

/-- **The warnings of a row of calls are about the expectations that it does not meet**, calls first
and expectations second. -/
theorem SimulatesAll.warnings (h : SimulatesAll p f place before stages results last)
    (hbefore : Carries p f initial place before) :
    List.Forall₂ WarnsOf (unmet p f place stages results)
      (results.flatMap StageResult.warnings) := by
  induction h with
  | nil => exact .nil
  | cons call _ ih =>
    rw [unmet, List.flatMap_cons]
    exact List.rel_append (call.follows hbefore).warnings (ih (call.carries hbefore))

/-! ## Errors and gas -/

/-- A call that did not fail, or does not say so, has no diagnosis. -/
theorem errors_of_not_hasFailure (h : ¬ r.HasFailure) : r.errors = .ok [] := by
  by_cases hsuccess : r.success = true
  · simp [StageResult.errors, diagnoseOutcome, hsuccess]
  · by_cases hstatus : r.status = "" ∨ r.status = successStatus
    · simp [StageResult.errors, diagnoseOutcome, diagnose, hsuccess, hstatus]
    · refine absurd ?_ h
      simpa [StageResult.HasFailure, hsuccess] using hstatus

theorem errors_of_hasFailure (h : r.HasFailure) :
    r.errors = (diagnoseFailure r.status r.label).map fun d => [d] := by
  obtain ⟨hsuccess, hempty, hno⟩ := h
  simp [StageResult.errors, diagnoseOutcome, diagnose, hsuccess, hempty, hno]

/-- **There is one diagnosis for each call that failed**, unless its status says nothing or that all
is well. -/
theorem forall₂_errorsOf {errors : List Diagnosis} (h : errorsOf results = .ok errors) :
    List.Forall₂ (fun r d => diagnoseFailure r.status r.label = .ok d)
      (results.filter fun r => r.HasFailure) errors := by
  induction results generalizing errors with
  | nil =>
    obtain rfl := Except.ok.inj h
    exact .nil
  | cons r rest ih =>
    obtain ⟨first, hfirst, h⟩ := Error.bind_eq_ok_iff.1 h
    obtain ⟨later, hlater, h⟩ := Error.bind_eq_ok_iff.1 h
    obtain rfl := Except.ok.inj h
    by_cases hfailed : r.HasFailure
    · rw [errors_of_hasFailure hfailed] at hfirst
      cases hd : diagnoseFailure r.status r.label with
      | error e =>
        rw [hd] at hfirst
        cases hfirst
      | ok d =>
        rw [hd] at hfirst
        obtain rfl := Except.ok.inj hfirst
        rw [List.filter_cons_of_pos (by simpa using hfailed)]
        exact .cons hd (ih hlater)
    · rw [errors_of_not_hasFailure hfailed] at hfirst
      obtain rfl := Except.ok.inj hfirst
      rw [List.filter_cons_of_neg (by simpa using hfailed)]
      exact ih hlater

theorem gasUsed_eq_sum (report : Report) :
    report.gasUsed = (report.results.map StageResult.gasUsed).sum := by
  rw [Report.gasUsed, List.sum_eq_foldl, List.foldl_map]

/-! ## The whole run -/

/-- What a report says follows from what the responses show. -/
structure ReportFollows (p : Services) (f : Flow) (report : Report) : Prop where
  length : report.results.length = f.stages.length
  stages : ∀ (i : Nat) (s : Stage) (r : StageResult), f.stages[i]? = some s →
    report.results[i]? = some r → StageFollows p f i s r
  warnings : List.Forall₂ WarnsOf (unmet p f 0 f.stages report.results) report.warnings
  errors : List.Forall₂ (fun r d => diagnoseFailure r.status r.label = .ok d)
    (report.results.filter fun r => r.HasFailure) report.errors
  success : report.success = true ↔ ∀ r ∈ report.results, r.success = true
  gasUsed : report.gasUsed = (report.results.map StageResult.gasUsed).sum
  /-- A position that is tracked is at the end as it was shown last. -/
  vault : report.diff.vault = f.position.map fun _ =>
    ⟨none, latest? (shownVault? p f) f.stages.length⟩

/-- **The verdict of a dry run follows from what is carried.** -/
theorem dryRun_follows {report : Report} (h : (dryRun p f).result = .ok report) :
    ReportFollows p f report := by
  obtain ⟨-, last, hall, -, hvault, herrors⟩ := dryRun_eq_ok h
  have hstart := carries_start (p := p) (f := f) report.initial
  have hlast := (hall.carries hstart).vault
  rw [Nat.zero_add] at hlast
  refine ⟨hall.length_results, fun i s r hs hr => ?_, hall.warnings hstart, forall₂_errorsOf herrors, ?_,
    gasUsed_eq_sum report, by rw [hvault, hlast]⟩
  · obtain ⟨c, c', hcall, hc, -⟩ := hall.call_at hstart hs hr
    rw [Nat.zero_add] at hcall hc
    exact hcall.follows hc
  · exact List.all_eq_true

theorem dryRun_follows_repaying :
    ∃ report, (dryRun chain repaying).result = .ok report ∧
      report.results.map (fun r => r.verdicts.map Verdict.passed) =
        [[true, false], [false, true]] ∧
      ReportFollows chain repaying report := by
  obtain ⟨report, h, -, hverdicts⟩ := exists_report_repaying
  exact ⟨report, h, hverdicts, dryRun_follows h⟩

end MovePlan.Flow
