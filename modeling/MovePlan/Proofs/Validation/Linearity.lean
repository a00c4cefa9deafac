import MovePlan.Proofs.Validation.Agreement
import MovePlan.Proofs.Validation.WellFormed

/-!
# Outputs that must not be lost

The findings about outputs tell how the references of a graph use an output that is known not to be
droppable: `unconsumed` if there is no reference to it, `unmoved` if none of them moves it. If neither
is reported and no finding is hard, the output is moved by one reference, and the walk over the
references leaves no room for another one after it (`MovedLast`). So it is gone when the graph is
resolved.
-/

namespace MovePlan

open Move Graph Abi Validation

theorem Abi.Signature.mem_nonDroppable_iff {sig : Signature} {i : Nat} :
    i ∈ sig.nonDroppable ↔ sig.droppable[i]? = some (some false) := by
  simp only [Signature.nonDroppable, List.mem_filter, List.mem_range, beq_iff_eq]
  exact ⟨fun h => h.2, fun h => ⟨(List.getElem?_eq_some_iff.mp h).1, h⟩⟩

namespace Validation

variable {σ : Type} {src : Source σ} {g : StepGraph} {d : Desk σ} {report : Report} {s : Step}
  {i : Nat} {answers : List (FunctionId × Fetched)} {sig : Signature} {label : String}

/-- Whether an output of a step is known not to be droppable. -/
def MustMove (signatures : Signatures) (s : Step) (i : Nat) : Prop :=
  ∃ sig, signatures.lookup s.function.text = some sig ∧ sig.droppable[i]? = some (some false)

/-- Whether the output is reported not to be used. -/
def Report.Unconsumed (r : Report) (label : String) (i : Nat) : Prop :=
  ∃ type, ⟨label, .unconsumed i type⟩ ∈ r.findings

/-- Whether the output is reported to be used and not moved. -/
def Report.Unmoved (r : Report) (label : String) (i : Nat) : Prop :=
  ∃ type users, ⟨label, .unmoved i type users⟩ ∈ r.findings

/-- Whether an output of a step is moved by one reference, of a later step, and every other reference
to it is before that one and does not move it. -/
def MovedLast (g : StepGraph) (s : Step) (i : Nat) : Prop :=
  ∃ k p r, g.steps[k]? = some s ∧ k < p.step ∧ g.RefAt p r ∧ r.target = (s.label, i) ∧
    r.mode = .move ∧
    ∀ q u, g.RefAt q u → u.target = (s.label, i) → q = p ∨ (q.Before p ∧ u.mode ≠ .move)

/-! ## One output -/

theorem refsTo_eq_nil_iff :
    g.refsTo label i = [] ↔ ∀ p r, g.RefAt p r → r.target ≠ (label, i) := by
  rw [List.eq_nil_iff_forall_not_mem]
  constructor
  · intro h p r hr htarget
    obtain ⟨s, hs, hmem⟩ := StepGraph.exists_refAt_iff.mp ⟨p, hr⟩
    exact h (s, r) (StepGraph.mem_refsTo_iff.mpr ⟨hs, hmem, htarget⟩)
  · rintro h ⟨s, r⟩ hmem
    obtain ⟨hs, hr, htarget⟩ := StepGraph.mem_refsTo_iff.mp hmem
    obtain ⟨p, hp⟩ := StepGraph.exists_refAt_iff.mpr ⟨s, hs, hr⟩
    exact h p r hp htarget

theorem any_refsTo_move_iff :
    ((g.refsTo label i).any fun u => u.2.mode == .move) = true ↔
      ∃ p r, g.RefAt p r ∧ r.target = (label, i) ∧ r.mode = .move := by
  simp only [List.any_eq_true, beq_iff_eq, Prod.exists, StepGraph.mem_refsTo_iff]
  constructor
  · rintro ⟨s, r, ⟨hs, hr, htarget⟩, hmove⟩
    obtain ⟨p, hp⟩ := StepGraph.exists_refAt_iff.mpr ⟨s, hs, hr⟩
    exact ⟨p, r, hp, htarget, hmove⟩
  · rintro ⟨p, r, hr, htarget, hmove⟩
    obtain ⟨s, hs, hmem⟩ := StepGraph.exists_refAt_iff.mp ⟨p, hr⟩
    exact ⟨s, r, ⟨hs, hmem, htarget⟩, hmove⟩

theorem unconsumed_mem_checkOutput_iff {j : Nat} {type : String} {l : String} :
    ⟨l, .unconsumed i type⟩ ∈ checkOutput g label sig j ↔
      l = label ∧ i = j ∧ type = (sig.returns[j]?).getD "" ∧ g.refsTo label j = [] := by
  unfold checkOutput
  dsimp only
  split
  · next he => simp [List.isEmpty_iff.mp he]
  · next he =>
    have hne : g.refsTo label j ≠ [] := fun h => he (List.isEmpty_iff.mpr h)
    split <;> simp [hne]

theorem unmoved_mem_checkOutput_iff {j : Nat} {type : String} {users : List (String × Mode)}
    {l : String} :
    ⟨l, .unmoved i type users⟩ ∈ checkOutput g label sig j ↔
      l = label ∧ i = j ∧ type = (sig.returns[j]?).getD "" ∧
        users = (g.refsTo label j).map (fun u => (u.1.label, u.2.mode)) ∧
        g.refsTo label j ≠ [] ∧
        ¬ ((g.refsTo label j).any fun u => u.2.mode == .move) = true := by
  unfold checkOutput
  dsimp only
  split
  · next he => simp [List.isEmpty_iff.mp he]
  · next he =>
    have hne : g.refsTo label j ≠ [] := fun h => he (List.isEmpty_iff.mpr h)
    split
    · next hm => simp [hm]
    · next hm =>
      simp only [List.mem_singleton, Finding.mk.injEq, Issue.unmoved.injEq, hne, hm, ne_eq,
        not_false_eq_true, Bool.false_eq_true, and_true]

/-! ## What is reported -/

/-- The findings about outputs that are known not to be droppable. -/
theorem mem_findings_iff_of_output (h : reportOn g answers = .ok report) {f : Finding}
    (hg : g.IsProper) (hf : f.issue.concern = .output) :
    f ∈ report.findings ↔ ∃ s ∈ g.steps, ∃ sig, (knownIn answers s.function).signature = some sig ∧
      ∃ j, sig.droppable[j]? = some (some false) ∧ f ∈ checkOutput g s.label sig j := by
  obtain ⟨calls, refs, hcalls, hrefs, rfl⟩ := reportOn_eq_ok_iff.mp h
  have hcall := concern_checkSteps hg.isProper hcalls
  have hnotcall : f ∉ calls := fun hm => by rw [(hcall f hm).2] at hf; cases hf
  have hnotref : f ∉ refs := fun hm => by rw [concern_checkRefsFrom hrefs f hm] at hf; cases hf
  simp only [List.mem_append, hnotcall, hnotref, false_or, checkConsumption, checkedSteps,
    List.mem_flatMap, List.mem_filterMap, Option.map_eq_some_iff, Signature.mem_nonDroppable_iff]
  constructor
  · rintro ⟨_, ⟨s, hs, sig, hsig, rfl⟩, j, hj, hmem⟩
    exact ⟨s, hs, sig, hsig, j, hj, hmem⟩
  · rintro ⟨s, hs, sig, hsig, j, hj, hmem⟩
    exact ⟨(s, sig), ⟨s, hs, sig, hsig, rfl⟩, j, hj, hmem⟩

/-- An output is reported unconsumed when it must not be lost and there is no reference to it. -/
theorem unconsumed_iff_refsTo (hg : g.IsProper) (h : (validate src g d).1 = .ok report) :
    report.Unconsumed label i ↔
      (∃ s ∈ g.steps, s.label = label ∧ MustMove report.signatures s i) ∧ g.refsTo label i = [] := by
  obtain ⟨answers, hreport, hnd⟩ := exists_answers_of_validate h
  constructor
  · rintro ⟨type, hmem⟩
    obtain ⟨t, ht, sig, hsig, j, hj, hout⟩ := (mem_findings_iff_of_output hreport hg rfl).mp hmem
    obtain ⟨rfl, rfl, -, hnil⟩ := unconsumed_mem_checkOutput_iff.mp hout
    refine ⟨⟨t, ht, rfl, sig, ?_, hj⟩, hnil⟩
    rw [signatures_reportOn hreport, lookup_signaturesIn hnd, hsig]
  · rintro ⟨⟨t, ht, rfl, sig, hsig, hdrop⟩, hnil⟩
    rw [signatures_reportOn hreport, lookup_signaturesIn hnd] at hsig
    exact ⟨_, (mem_findings_iff_of_output hreport hg rfl).mpr ⟨t, ht, sig, hsig, i, hdrop,
      unconsumed_mem_checkOutput_iff.mpr ⟨rfl, rfl, rfl, hnil⟩⟩⟩

/-- It is reported unmoved when it must not be lost, and none of the references to it moves it. -/
theorem unmoved_iff_refsTo (hg : g.IsProper) (h : (validate src g d).1 = .ok report) :
    report.Unmoved label i ↔
      (∃ s ∈ g.steps, s.label = label ∧ MustMove report.signatures s i) ∧
        g.refsTo label i ≠ [] ∧ ¬ ((g.refsTo label i).any fun u => u.2.mode == .move) = true := by
  obtain ⟨answers, hreport, hnd⟩ := exists_answers_of_validate h
  constructor
  · rintro ⟨type, users, hmem⟩
    obtain ⟨t, ht, sig, hsig, j, hj, hout⟩ := (mem_findings_iff_of_output hreport hg rfl).mp hmem
    obtain ⟨rfl, rfl, -, -, hused⟩ := unmoved_mem_checkOutput_iff.mp hout
    refine ⟨⟨t, ht, rfl, sig, ?_, hj⟩, hused⟩
    rw [signatures_reportOn hreport, lookup_signaturesIn hnd, hsig]
  · rintro ⟨⟨t, ht, rfl, sig, hsig, hdrop⟩, hused⟩
    rw [signatures_reportOn hreport, lookup_signaturesIn hnd] at hsig
    exact ⟨_, _, (mem_findings_iff_of_output hreport hg rfl).mpr ⟨t, ht, sig, hsig, i, hdrop,
      unmoved_mem_checkOutput_iff.mpr ⟨rfl, rfl, rfl, rfl, hused⟩⟩⟩

/-- An output that must not be lost is reported unconsumed when no reference asks for it. -/
theorem unconsumed_iff (hg : g.IsProper) (h : (validate src g d).1 = .ok report)
    (hs : s ∈ g.steps) (hi : MustMove report.signatures s i) :
    report.Unconsumed s.label i ↔ ∀ p r, g.RefAt p r → r.target ≠ (s.label, i) := by
  rw [unconsumed_iff_refsTo hg h, refsTo_eq_nil_iff]
  exact and_iff_right ⟨s, hs, rfl, hi⟩

/-- It is reported unmoved when there are references to it and none moves it. -/
theorem unmoved_iff (hg : g.IsProper) (h : (validate src g d).1 = .ok report)
    (hs : s ∈ g.steps) (hi : MustMove report.signatures s i) :
    report.Unmoved s.label i ↔ (∃ p r, g.RefAt p r ∧ r.target = (s.label, i)) ∧
      ∀ p r, g.RefAt p r → r.target = (s.label, i) → r.mode ≠ .move := by
  have hused : (∃ p r, g.RefAt p r ∧ r.target = (s.label, i)) ↔ g.refsTo s.label i ≠ [] := by
    rw [ne_eq, refsTo_eq_nil_iff]
    simp
  have hmoved : (∀ p r, g.RefAt p r → r.target = (s.label, i) → r.mode ≠ .move) ↔
      ¬ ((g.refsTo s.label i).any fun u => u.2.mode == .move) = true := by
    rw [any_refsTo_move_iff]
    simp
  rw [unmoved_iff_refsTo hg h, hused, hmoved]
  exact and_iff_right ⟨s, hs, rfl, hi⟩

/-! ## The walk leaves one move -/

/-- Where the walk over the references has no finding, a reference that moves an output is the last
one to it, of a step after the one that gives it. -/
theorem movedLast_of_refAt (hg : g.IsProper) {signatures : Signatures}
    (hclean : checkRefs g signatures = .ok []) (hs : s ∈ g.steps) {p : Place} {r : Ref}
    (hr : g.RefAt p r) (htarget : r.target = (s.label, i)) (hmove : r.mode = .move) :
    MovedLast g s i := by
  have hgrounded := (checkRefs_eq_nil_iff hg signatures).mp hclean
  obtain ⟨k, producer, hk, hproducer, hlabel⟩ :=
    mem_labels_take_iff.mp (hgrounded p r hr).declared
  have hstep : r.step = s.label := congrArg Prod.fst htarget
  obtain rfl := StepGraph.eq_of_label (List.mem_of_getElem? hproducer) hs (hlabel.trans hstep)
  refine ⟨k, p, r, hproducer, hk, hr, htarget, hmove, fun q u hu hutarget => ?_⟩
  rcases Place.before_or_eq_or_before q p with hq | hq | hq
  · refine Or.inr ⟨hq, ?_⟩
    exact (hgrounded p r hr).available u (StepGraph.mem_refsBefore_iff.mpr ⟨q, hq, hu⟩)
      (hutarget.trans htarget.symm)
  · exact Or.inl hq
  -- a later reference would find the output moved
  · exact absurd hmove ((hgrounded q u hu).available r
      (StepGraph.mem_refsBefore_iff.mpr ⟨p, hq, hr⟩) (htarget.trans hutarget.symm))

/-- An output that some reference moves is gone when the graph is resolved. -/
theorem not_mem_remaining {arity : Step → Except Error Nat} {signer : Int}
    {calls : List ResolvedCall} {r : Resolver} (h : g.resolveAll arity signer = (.ok calls, r))
    {p : Place} {ref : Ref} (hr : g.RefAt p ref) (htarget : ref.target = (label, i))
    (hmove : ref.mode = .move) : i ∉ r.remaining label := by
  have hnil : Run signer (GivesPlaceholders arity) [] [] [] { signer } := .nil
  obtain ⟨outputs, run⟩ := hnil.resolveSteps h
  obtain ⟨s, hs, hmem⟩ := StepGraph.exists_refAt_iff.mp ⟨p, hr⟩
  have hgone : (r.mover? (label, i)).isSome = true :=
    run.mover?_isSome_iff.mpr ⟨s, hs, ref, hmem, htarget, hmove⟩
  intro hremains
  have hleft := (List.mem_filter.mp hremains).2
  rw [Option.isNone_iff_eq_none] at hleft
  rw [hleft] at hgone
  cases hgone

/-- **A report in order means linear use.** An output that must not be lost is reported unconsumed
exactly when no reference asks for it, and unmoved exactly when references ask for it and none moves
it. If neither is reported it is moved once, by the last reference to it. If neither is reported of
any output, none that must not be lost remains when the graph is resolved. -/
theorem ok_report_uses_linearly (hg : g.IsProper) (hd : g.IsDecodable)
    (h : (validate src g d).1 = .ok report) (hok : report.ok = true) :
    (∀ s ∈ g.steps, ∀ i, MustMove report.signatures s i →
      (report.Unconsumed s.label i ↔ ∀ p r, g.RefAt p r → r.target ≠ (s.label, i)) ∧
      (report.Unmoved s.label i ↔ (∃ p r, g.RefAt p r ∧ r.target = (s.label, i)) ∧
        ∀ p r, g.RefAt p r → r.target = (s.label, i) → r.mode ≠ .move) ∧
      (¬ report.Unconsumed s.label i → ¬ report.Unmoved s.label i → MovedLast g s i)) ∧
    ("UNCONSUMED_RESOURCE" ∉ report.codes → "UNMOVED_RESOURCE" ∉ report.codes → ∀ signer,
      ∃ calls r,
        g.resolveAll (fun s => .ok (arityBy g report.signatures s)) signer = (.ok calls, r) ∧
        ∀ s ∈ g.steps, ∀ i, MustMove report.signatures s i → i ∉ r.remaining s.label) := by
  have hclean := checkRefs_of_ok hg h hok
  have hlast : ∀ s ∈ g.steps, ∀ i, MustMove report.signatures s i →
      ¬ report.Unconsumed s.label i → ¬ report.Unmoved s.label i → MovedLast g s i := by
    intro s hs i hi hconsumed hmoved
    rw [unconsumed_iff hg h hs hi] at hconsumed
    rw [unmoved_iff hg h hs hi] at hmoved
    simp only [not_forall, ne_eq, not_not, not_and, forall_exists_index, and_imp, exists_prop]
      at hconsumed hmoved
    -- some reference asks for it, and then some reference moves it
    obtain ⟨p, r, hr, htarget⟩ := hconsumed
    obtain ⟨p, r, hr, htarget, hmove⟩ := hmoved p r hr htarget
    exact movedLast_of_refAt hg hclean hs hr htarget hmove
  refine ⟨fun s hs i hi =>
    ⟨unconsumed_iff hg h hs hi, unmoved_iff hg h hs hi, hlast s hs i hi⟩, ?_⟩
  intro hconsumed hmoved signer
  obtain ⟨calls, r, hresolve⟩ := exists_resolveAll_eq_ok hg hd hclean signer
  refine ⟨calls, r, hresolve, fun s hs i hi => ?_⟩
  obtain ⟨k, p, ref, -, -, hr, htarget, hmove, -⟩ := hlast s hs i hi
    (fun ⟨type, hm⟩ => hconsumed (List.mem_map_of_mem (f := Finding.code) hm))
    (fun ⟨type, users, hm⟩ => hmoved (List.mem_map_of_mem (f := Finding.code) hm))
  exact not_mem_remaining hresolve hr htarget hmove

/-! ## The payment -/

theorem dropRule_coin : dropRule "0x7::coin::Coin".toList = .struct "0x7::coin::Coin" := by
  rw [dropRule]
  rfl

theorem droppableAll_coin {cache : Cache} (h : cache.structs = []) :
    droppableAll coinSource ["0x7::coin::Coin"] ⟨cache, ()⟩ =
      (.ok [some false],
        ⟨{ cache with structs := [("0x7::coin::Coin", some ["store"])] }, ()⟩) := by
  rw [droppableAll, droppable, dropRule_coin]
  simp only [Desk.struct, h]
  rfl

theorem validate_payment : (validate coinSource payment ⟨{}, ()⟩).1 = .ok ⟨[], [
    (withdraw.text, withdrawSignature.withDroppable [some false]),
    (deposit.text, depositSignature)]⟩ := by
  have hanswer : Desk.function ⟨{}, ()⟩ coinSource withdraw = (.ok (some withdrawSignature),
      ⟨{ functions := [(withdraw.text, some withdrawSignature)], fetches := 1 }, ()⟩) := rfl
  have hreturns : withdrawSignature.returns = ["0x7::coin::Coin"] := rfl
  have hwithdraw : fetch coinSource withdraw ⟨{}, ()⟩ =
      (.ok ⟨some (withdrawSignature.withDroppable [some false]), none⟩,
        ⟨{ functions := [(withdraw.text, some withdrawSignature)]
           structs := [("0x7::coin::Coin", some ["store"])]
           fetches := 1 }, ()⟩) := by
    rw [fetch, hanswer]
    dsimp only
    rw [hreturns, droppableAll_coin rfl]
  have hids : payment.functionIds = [withdraw, deposit] := rfl
  rw [validate, hids, fetchEach, hwithdraw]
  rfl

theorem ok_report_uses_linearly_payment : payment.IsProper ∧ payment.IsDecodable ∧
    ∃ report, (validate coinSource payment ⟨{}, ()⟩).1 = .ok report ∧ report.ok = true ∧
      (∃ s ∈ payment.steps, s.label = "take" ∧ MovedLast payment s 0) ∧
      ∃ calls r, payment.resolveAll (fun s => .ok (arityBy payment report.signatures s)) 0 =
        (.ok calls, r) ∧ 0 ∉ r.remaining "take" := by
  refine ⟨isProper_payment, isDecodable_payment, _, validate_payment, rfl, ?_⟩
  obtain ⟨hused, hresolved⟩ :=
    ok_report_uses_linearly isProper_payment isDecodable_payment validate_payment rfl
  obtain ⟨take, htake, hlabel, hmust⟩ : ∃ s ∈ payment.steps, s.label = "take" ∧
      MustMove [(withdraw.text, withdrawSignature.withDroppable [some false]),
        (deposit.text, depositSignature)] s 0 :=
    ⟨_, List.mem_cons_self, rfl, _, rfl, rfl⟩
  refine ⟨⟨take, htake, hlabel, ?_⟩, ?_⟩
  · exact (hused take htake 0 hmust).2.2 (by simp [Report.Unconsumed]) (by simp [Report.Unmoved])
  · obtain ⟨calls, r, hresolve, hgone⟩ :=
      hresolved (by simp [Report.codes]) (by simp [Report.codes]) 0
    exact ⟨calls, r, hresolve, hlabel ▸ hgone take htake 0 hmust⟩

end Validation

end MovePlan
