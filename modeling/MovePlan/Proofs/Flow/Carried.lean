import Mathlib.Algebra.Ring.Int.Defs
import MovePlan.Proofs.Flow.Run

/-!
# Balances through a dry run

Three sets of balances have to stay in step: what each result shows of the owner's balances after its
call, what the deltas of each call go from and to, and what the differences at the end go from and to.
All of them come down to what is held after the first `n` calls (`held?`).

A token that the snapshot knows is known throughout, for a balance that is not shown is kept
(`exists_held?`). So a delta never stands for a balance that is missing, and the deltas of one token,
each of which goes on where the one before it ended, add up (`SimulatesAll.sum_changes`).
-/

namespace MovePlan.Flow

open Simulation Tracking

variable {p : Services} {f : Flow}

/-! ## Known tokens -/

/-- **What is tracked is never lost.** -/
theorem exists_held? {initial : Snapshot} (h : capture p.reader f.owner f.tokens = .ok initial)
    {t : Token} (ht : t ∈ f.tokens) (n : Nat) :
    ∃ m, held? p f initial t.metadata n = some m := by
  obtain ⟨first, hfirst⟩ := known_of_capture h ht
  cases hlatest : latest? (shownBalance? p f t.metadata) n with
  | none => exact ⟨first, by simp [held?, hlatest, hfirst]⟩
  | some m => exact ⟨m, by simp [held?, hlatest]⟩

section

variable {initial : Snapshot} {place : Nat} {before after last : Carried} {s : Stage}
  {r : StageResult} {stages : List Stage} {results : List StageResult}

/-- Each delta of a call goes from what is carried before it to what is carried after it. -/
theorem Simulates.spans (h : Simulates p f place before s r after)
    (hinitial : capture p.reader f.owner f.tokens = .ok initial)
    (hbefore : Carries p f initial place before) {d : Delta} (hd : d ∈ r.deltas) :
    d.Spans before.balances r.balances := by
  have htoken : d.token ∈ f.tokens := by
    rw [← tokens_of_deltasOf h.deltas]
    exact List.mem_map_of_mem hd
  refine deltasOf_spans h.deltas hd ?_ ?_
  · rw [hbefore.balances]
    exact exists_held? hinitial htoken place
  · rw [h.balances_eq hbefore]
    exact exists_held? hinitial htoken (place + 1)

/-! ## Adding up -/

/-- The `k`-th delta of a list of deltas is that of the `k`-th token. -/
theorem exists_delta_at {b a : Balances} {tokens : List Token} {ds : List Delta}
    (h : deltasOf b a tokens = .ok ds) {k : Nat} {t : Token} (ht : tokens[k]? = some t) :
    ∃ d, ds[k]? = some d ∧ d.token = t := by
  rw [← tokens_of_deltasOf h, List.getElem?_map, Option.map_eq_some_iff] at ht
  exact ht

/-- **The changes of a token in a row of calls add up** to the change from before the row to after
it. -/
theorem SimulatesAll.sum_changes (h : SimulatesAll p f place before stages results last)
    (hinitial : capture p.reader f.owner f.tokens = .ok initial)
    (hbefore : Carries p f initial place before) {k : Nat} {t : Token}
    (ht : f.tokens[k]? = some t) {b : Int} (hb : before.balances.get? t.metadata = some b) :
    ∃ changes : List Int, results.map (fun r => r.deltas[k]?.map Delta.change) = changes.map some ∧
      last.balances.get? t.metadata = some (b + changes.sum) := by
  induction h generalizing b with
  | nil => exact ⟨[], rfl, by simpa using hb⟩
  | cons call _ ih =>
    obtain ⟨d, hd, rfl⟩ := exists_delta_at call.deltas ht
    have hspans := call.spans hinitial hbefore (List.mem_of_getElem? hd)
    obtain rfl : b = d.before := Option.some.inj (hb.symm.trans hspans.before)
    obtain ⟨changes, hchanges, hlast⟩ :=
      ih (call.carries hbefore) (call.carried ▸ hspans.after)
    refine ⟨d.change :: changes, by simp [hd, hchanges], ?_⟩
    have hsum : d.before + (d.change :: changes).sum = d.after + changes.sum := by
      rw [List.sum_cons, hspans.change]
      omega
    rw [hlast, hsum]

end

/-! ## The whole run -/

/-- The balances of a report are those that the responses show, carried forward without loss. -/
structure CarriesBalances (p : Services) (f : Flow) (report : Report) : Prop where
  initial : capture p.reader f.owner f.tokens = .ok report.initial
  length : report.results.length = f.stages.length
  /-- Each response is read; what it does not show is not in it. -/
  reads : ∀ (i : Nat) (s : Stage), f.stages[i]? = some s → ∃ o, Reads p f i s o
  /-- After a call an asset has the balance that the latest response shows that shows one, else that
  of the snapshot. -/
  held : ∀ (i : Nat) (r : StageResult), report.results[i]? = some r →
    ∀ asset, r.balances.get? asset = held? p f report.initial asset (i + 1)
  /-- A call has one delta for each tracked token, in order. -/
  tokens : ∀ r ∈ report.results, r.deltas.map Delta.token = f.tokens
  /-- Each delta goes from the balance before the call to that after it. -/
  spans : ∀ (i : Nat) (r : StageResult), report.results[i]? = some r →
    ∃ before, report.known[i]? = some before ∧ ∀ d ∈ r.deltas, d.Spans before r.balances
  overall : report.diff.deltas.map Delta.token = f.tokens
  /-- A token's change over the whole run is the sum of its changes in the calls. -/
  sum : ∀ (k : Nat) (d : Delta), report.diff.deltas[k]? = some d →
    ∃ changes : List Int,
      report.results.map (fun r => r.deltas[k]?.map Delta.change) = changes.map some ∧
        d.change = changes.sum

/-- **A dry run carries balances forward without loss.** -/
theorem dryRun_carries_balances {report : Report} (h : (dryRun p f).result = .ok report) :
    CarriesBalances p f report := by
  obtain ⟨hinitial, last, hall, hdiff, -⟩ := dryRun_eq_ok h
  refine ⟨hinitial, hall.length_results, fun i s hs => ?_, fun i r hr => ?_, fun r hr => ?_,
    fun i r hr => ?_, tokens_of_deltasOf hdiff, fun k d hd => ?_⟩
  · obtain ⟨hi, -⟩ := List.getElem?_eq_some_iff.1 hs
    have hr := List.getElem?_eq_getElem (hall.length_results.symm ▸ hi)
    obtain ⟨c, c', hcall, -, -⟩ := hall.call_at (carries_start report.initial) hs hr
    obtain ⟨o, hreads, -⟩ := hcall.outcome
    exact ⟨o, Nat.zero_add i ▸ hreads⟩
  · obtain ⟨s, c, c', -, hcall, hc, -⟩ := exists_call_at hall hr
    exact hcall.balances_eq hc
  · obtain ⟨i, hi⟩ := List.mem_iff_getElem?.1 hr
    obtain ⟨s, c, c', -, hcall, -, -⟩ := exists_call_at hall hi
    exact tokens_of_deltasOf hcall.deltas
  · obtain ⟨s, c, c', -, hcall, hc, hknown⟩ := exists_call_at hall hr
    exact ⟨c.balances, hknown, fun d hd => hcall.spans hinitial hc hd⟩
  · have ht : f.tokens[k]? = some d.token := by
      rw [← tokens_of_deltasOf hdiff, List.getElem?_map, hd, Option.map_some]
    obtain ⟨b, hb⟩ := known_of_capture hinitial (List.mem_of_getElem? ht)
    obtain ⟨changes, hchanges, hlast⟩ :=
      hall.sum_changes hinitial (carries_start report.initial) ht hb
    have hspans := deltasOf_spans hdiff (List.mem_of_getElem? hd) ⟨b, hb⟩ ⟨_, hlast⟩
    obtain rfl : b = d.before := Option.some.inj (hb.symm.trans hspans.before)
    have hafter : d.before + changes.sum = d.after :=
      Option.some.inj (hlast.symm.trans hspans.after)
    exact ⟨changes, hchanges, by rw [hspans.change]; omega⟩

theorem dryRun_carries_balances_repaying :
    ∃ report, (dryRun chain repaying).result = .ok report ∧
      report.diff.deltas.map Delta.change = [-30] ∧ CarriesBalances chain repaying report := by
  obtain ⟨report, h, hdiff, -⟩ := exists_report_repaying
  exact ⟨report, h, by rw [hdiff]; rfl, dryRun_carries_balances h⟩

end MovePlan.Flow
