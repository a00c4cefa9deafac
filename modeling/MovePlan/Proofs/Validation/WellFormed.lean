import MovePlan.Proofs.Graph.Resolver
import MovePlan.Proofs.Validation.Findings
import MovePlan.Proofs.Validation.Lookup

/-!
# Validation accepts the well-formed graphs

A graph is well formed if each step calls a function that is found, with as many arguments of each
sort as its signature asks for, and if each reference is to an output that an earlier step has and
that no reference before it moves. Validation of proper steps always comes to a report, and the report
is in order exactly for the well-formed graphs (`ok_validate_iff`).
-/

namespace MovePlan.Validation

open Move Graph Abi Error

/-- Whether a graph is well formed, given the signatures of the functions that are found. -/
structure WellFormed (g : StepGraph) (found : FunctionId → Option Signature) : Prop where
  calls : ∀ s ∈ g.steps, ∃ sig, found s.function = some sig ∧ Fills s sig
  refs : ∀ p r, g.RefAt p r → ∃ i producer sig, i < p.step ∧ g.steps[i]? = some producer ∧
    producer.label = r.step ∧ found producer.function = some sig ∧ r.index < sig.arity
  available : ∀ p r, g.RefAt p r → ∀ q u, g.RefAt q u → q.Before p → u.target = r.target →
    u.mode ≠ .move

variable {σ : Type} {src : Source σ} {g : StepGraph} {d : Desk σ} {report : Report}
  {found found' : FunctionId → Option Signature} {answers : List (FunctionId × Fetched)}

/-- What an entry of an interface tells, if it describes a signature. -/
theorem exists_of_ofEntry {entry : Json} {sig : Signature}
    (h : Signature.ofEntry entry = .ok sig) :
    ∃ params generics returns, textsOf (entry.get "params") = .ok params ∧
      countOf (entry.get "generic_type_params") = .ok generics ∧
      textsOf (entry.get "return") = .ok returns ∧
      sig = { signers := countSigners params, params := params.drop (countSigners params),
              generics, returns } := by
  rw [Signature.ofEntry] at h
  cases hobj : entry.isObject with
  | false => simp [hobj, throw, throwThe, MonadExceptOf.throw, bind, Except.bind] at h
  | true =>
    simp only [hobj, Bool.not_true, Bool.false_eq_true, if_false, bind_eq_ok_iff, pure,
      Except.pure, Except.ok.injEq] at h
    obtain ⟨params, hparams, generics, hgenerics, returns, hreturns, rfl⟩ := h
    exact ⟨params, generics, returns, hparams, hgenerics, hreturns, rfl⟩

/-- A signature that an interface describes is filled by as many signers as there are signer parameters
in front, and as many other arguments as there are parameters after them. -/
theorem fills_ofEntry_iff {entry : Json} {sig : Signature} {s : Step}
    (h : Signature.ofEntry entry = .ok sig) :
    ∃ params generics, textsOf (entry.get "params") = .ok params ∧
      countOf (entry.get "generic_type_params") = .ok generics ∧
      (Fills s sig ↔ s.typeArguments.length = generics ∧
        s.signerArgs.length = (params.takeWhile TypeName.signers.contains).length ∧
        s.otherArgs.length = (params.dropWhile TypeName.signers.contains).length) := by
  obtain ⟨params, generics, returns, hparams, hgenerics, -, rfl⟩ := exists_of_ofEntry h
  have hrest : params.drop (countSigners params) =
      params.dropWhile TypeName.signers.contains := calc
    params.drop (countSigners params)
      = (params.takeWhile TypeName.signers.contains ++
          params.dropWhile TypeName.signers.contains).drop (countSigners params) := by
        rw [List.takeWhile_append_dropWhile]
    _ = params.dropWhile TypeName.signers.contains := List.drop_left' rfl
  refine ⟨params, generics, hparams, hgenerics, ?_⟩
  rw [← hrest]
  exact ⟨fun ⟨hg, hs, hp⟩ => ⟨hg, hs, hp⟩, fun ⟨hg, hs, hp⟩ => ⟨hg, hs, hp⟩⟩

/-! ## From the walk over the references -/

theorem mem_labels_take_iff {k : Nat} {label : String} :
    label ∈ (g.steps.take k).map Step.label ↔
      ∃ i producer, i < k ∧ g.steps[i]? = some producer ∧ producer.label = label := by
  rw [List.mem_map]
  constructor
  · rintro ⟨producer, hmem, hlabel⟩
    obtain ⟨i, hi⟩ := List.mem_iff_getElem?.mp hmem
    rw [List.getElem?_take, Option.ite_none_right_eq_some] at hi
    exact ⟨i, producer, hi.1, hi.2, hlabel⟩
  · rintro ⟨i, producer, hi, hproducer, hlabel⟩
    refine ⟨producer, List.mem_of_getElem? (i := i) ?_, hlabel⟩
    rw [List.getElem?_take_of_lt hi, hproducer]

/-- Where every function is found, the references without a finding are those to an output that an
earlier step has and that is not moved yet. -/
theorem wellFormed_iff (hg : g.IsProper) {signatures : Signatures}
    (hsig : ∀ id : FunctionId, signatures.lookup id.text = found id) :
    WellFormed g found ↔ (∀ s ∈ g.steps, ∃ sig, found s.function = some sig ∧ Fills s sig) ∧
      checkRefs g signatures = .ok [] := by
  rw [checkRefs_eq_nil_iff hg]
  constructor
  · rintro ⟨hcalls, hrefs, havailable⟩
    refine ⟨hcalls, fun p r hr => ?_⟩
    obtain ⟨i, producer, sig, hi, hproducer, hlabel, hfound, hindex⟩ := hrefs p r hr
    refine ⟨mem_labels_take_iff.mpr ⟨i, producer, hi, hproducer, hlabel⟩, fun n hn => ?_,
      fun u hu htarget => ?_⟩
    -- the arity that the walk knows is that of the signature that was found
    · rw [← hlabel, arityIn_label (List.mem_of_getElem? hproducer), hsig, hfound,
        Option.map_some, Option.some.injEq] at hn
      rwa [← hn]
    · obtain ⟨q, hq, hu⟩ := StepGraph.mem_refsBefore_iff.mp hu
      exact havailable p r hr q u hu hq htarget
  · rintro ⟨hcalls, hgrounded⟩
    refine ⟨hcalls, fun p r hr => ?_, fun p r hr q u hu hq => ?_⟩
    · obtain ⟨hdeclared, hindex, -⟩ := hgrounded p r hr
      obtain ⟨i, producer, hi, hproducer, hlabel⟩ := mem_labels_take_iff.mp hdeclared
      have hmem := List.mem_of_getElem? hproducer
      obtain ⟨sig, hfound, -⟩ := hcalls producer hmem
      refine ⟨i, producer, sig, hi, hproducer, hlabel, hfound, hindex _ ?_⟩
      rw [← hlabel, arityIn_label hmem, hsig, hfound, Option.map_some]
    · exact (hgrounded p r hr).available u (StepGraph.mem_refsBefore_iff.mpr ⟨q, hq, hu⟩)

/-! ## From what was answered -/

/-- The signature in an answer, if there is one. -/
def signatureOf : Except Error (Option Signature) → Option Signature
  | .ok found => found
  | .error _ => none

/-- The signature that is found for a function of a graph. -/
def foundFor (src : Source σ) (g : StepGraph) (d : Desk σ) (id : FunctionId) : Option Signature :=
  signatureOf (answerFor src g d id)

/-- What is known of a function is the signature that was found, with the droppability of its outputs
put in. -/
theorem Tells.signature_eq {answer : Except Error (Option Signature)} {f : Fetched}
    (h : Tells answer f) :
    ∃ flags, f.signature = (signatureOf answer).map (Signature.withDroppable · flags) := by
  cases h with
  | found sig flags => exact ⟨flags, rfl⟩
  | missing | failed => exact ⟨[], rfl⟩

/-- Well-formedness depends on what is known of the functions that are called. -/
theorem WellFormed.congr (h : WellFormed g found)
    (hfound : ∀ s ∈ g.steps, ∀ sig, found s.function = some sig → ∃ sig',
      found' s.function = some sig' ∧ sig'.arity = sig.arity ∧ (Fills s sig → Fills s sig')) :
    WellFormed g found' where
  calls s hs := by
    obtain ⟨sig, hsig, hfills⟩ := h.calls s hs
    obtain ⟨sig', hsig', -, hfills'⟩ := hfound s hs sig hsig
    exact ⟨sig', hsig', hfills' hfills⟩
  refs p r hr := by
    obtain ⟨i, producer, sig, hi, hproducer, hlabel, hsig, hindex⟩ := h.refs p r hr
    obtain ⟨sig', hsig', harity, -⟩ :=
      hfound producer (List.mem_of_getElem? hproducer) sig hsig
    exact ⟨i, producer, sig', hi, hproducer, hlabel, hsig', harity ▸ hindex⟩
  available := h.available

/-- Whether outputs may be dropped has no part in whether a graph is well formed. -/
theorem wellFormed_withDroppable_iff
    (hfound : ∀ s ∈ g.steps, ∃ flags,
      found' s.function = (found s.function).map (Signature.withDroppable · flags)) :
    WellFormed g found' ↔ WellFormed g found := by
  constructor
  · intro h
    refine h.congr fun s hs sig' hsig' => ?_
    obtain ⟨flags, hflags⟩ := hfound s hs
    obtain ⟨sig, hsig, rfl⟩ := Option.map_eq_some_iff.mp (hflags.symm.trans hsig')
    exact ⟨sig, hsig, rfl, fun ⟨hg, hs, hp⟩ => ⟨hg, hs, hp⟩⟩
  · intro h
    refine h.congr fun s hs sig hsig => ?_
    obtain ⟨flags, hflags⟩ := hfound s hs
    exact ⟨sig.withDroppable flags, by rw [hflags, hsig]; rfl, rfl,
      fun ⟨hg, hs, hp⟩ => ⟨hg, hs, hp⟩⟩

/-! ## The report -/

/-- A source that fails only to fetch never keeps a report from being made. -/
theorem exists_validate_eq_ok (hsrc : src.FailsOnlyToFetch) (hg : g.IsProper) (d : Desk σ) :
    ∃ report, (validate src g d).1 = .ok report := by
  obtain ⟨answers, hvalidate, -⟩ := exists_validate_eq hsrc g d
  rw [hvalidate]
  exact exists_reportOn_eq_ok hg answers

/-- A report is ok exactly if the graph is well-formed. -/
theorem ok_validate_iff (hsrc : src.FailsOnlyToFetch) (hg : g.IsProper)
    (h : (validate src g d).1 = .ok report) :
    report.ok = true ↔ WellFormed g (foundFor src g d) := by
  obtain ⟨answers, hvalidate, hnd, htells⟩ := exists_validate_eq hsrc g d
  rw [hvalidate] at h
  rw [ok_reportOn_iff hg h, ← wellFormed_iff hg (lookup_signaturesIn hnd)]
  exact wellFormed_withDroppable_iff fun s hs => (htells s hs).signature_eq

/-- A report that is ok leaves nothing for the references to fail at. -/
theorem checkRefs_of_ok (hg : g.IsProper) (h : (validate src g d).1 = .ok report)
    (hok : report.ok = true) : checkRefs g report.signatures = .ok [] := by
  obtain ⟨answers, hreport, -⟩ := exists_answers_of_validate h
  rw [signatures_reportOn hreport]
  exact ((ok_reportOn_iff hg hreport).mp hok).2

/-- The signatures of a report are those that were found. -/
theorem exists_lookup_signatures_eq (hsrc : src.FailsOnlyToFetch)
    (h : (validate src g d).1 = .ok report) {s : Step} (hs : s ∈ g.steps) :
    ∃ flags, report.signatures.lookup s.function.text =
      (foundFor src g d s.function).map (Signature.withDroppable · flags) := by
  obtain ⟨answers, hvalidate, hnd, htells⟩ := exists_validate_eq hsrc g d
  rw [hvalidate] at h
  rw [signatures_reportOn h, lookup_signaturesIn hnd]
  exact (htells s hs).signature_eq

/-- What a report says of a step whose function is not found. -/
theorem aboutCall_validate (hsrc : src.FailsOnlyToFetch) (hg : g.IsProper)
    (h : (validate src g d).1 = .ok report) {s : Step} (hs : s ∈ g.steps) :
    (answerFor src g d s.function = .ok none →
      report.aboutCall s.label = [⟨s.label, .functionNotFound s.function none⟩]) ∧
    ∀ url reason status, answerFor src g d s.function = .error (.abiFetch url reason status) →
      report.aboutCall s.label =
        [⟨s.label, .functionNotFound s.function (some (causeOf url reason status))⟩] := by
  obtain ⟨answers, hvalidate, -, htells⟩ := exists_validate_eq hsrc g d
  rw [hvalidate] at h
  have hown := aboutCall_of_not_found hg h hs
  have htell := htells s hs
  generalize answerFor src g d s.function = answer at htell ⊢
  generalize knownIn answers s.function = known at htell hown
  refine ⟨fun he => ?_, fun url reason status he => ?_⟩
  · subst he
    cases htell
    exact hown rfl
  · subst he
    cases htell
    exact hown rfl

/-- **Validation accepts exactly the well-formed graphs.** It always comes to a report. A function
that is not there, or could not be fetched, is the one finding about the call of it. -/
theorem validate_accepts_wellFormed (hsrc : src.FailsOnlyToFetch) (hg : g.IsProper)
    (d : Desk σ) :
    ∃ report, (validate src g d).1 = .ok report ∧
      (report.ok = true ↔ WellFormed g (foundFor src g d)) ∧
      ∀ s ∈ g.steps,
        (answerFor src g d s.function = .ok none →
          report.aboutCall s.label = [⟨s.label, .functionNotFound s.function none⟩]) ∧
        ∀ url reason status, answerFor src g d s.function = .error (.abiFetch url reason status) →
          report.aboutCall s.label =
            [⟨s.label, .functionNotFound s.function (some (causeOf url reason status))⟩] := by
  obtain ⟨report, hreport⟩ := exists_validate_eq_ok hsrc hg d
  exact ⟨report, hreport, ok_validate_iff hsrc hg hreport,
    fun s hs => aboutCall_validate hsrc hg hreport hs⟩

/-! ## A payment -/

theorem isIdentifier_coin : FunctionId.isIdentifier "coin".toList = true := by decide

/-- The function that gives a coin to the signer, of a number of units. -/
def withdraw : FunctionId :=
  ⟨"0x7", "coin", "withdraw", by decide, isIdentifier_coin, by decide⟩

def withdrawSignature : Signature :=
  { signers := 1, params := ["u64"], generics := 0, returns := ["0x7::coin::Coin"] }

/-- The function that takes a coin for an account. -/
def deposit : FunctionId :=
  ⟨"0x7", "coin", "deposit", by decide, isIdentifier_coin, by decide⟩

def depositSignature : Signature :=
  { signers := 0, params := ["address", "0x7::coin::Coin"], generics := 0, returns := [] }

/-- A source that knows the functions of coins; a coin can be stored, not dropped. -/
def coinSource : Source Unit where
  function id s :=
    (.ok ([(withdraw, withdrawSignature), (deposit, depositSignature)].lookup id), s)
  struct id s := (.ok (if id = "0x7::coin::Coin" then some ["store"] else none), s)

/-- A coin is withdrawn and paid to an account. -/
def payment : StepGraph where
  steps := [
    { label := "take", function := withdraw, args := [.signer, .literal (.str "5n")] },
    { label := "pay", function := deposit,
      args := [.literal (.str "0x2"), .ref ⟨"take", 0, .move⟩] }]

theorem failsOnlyToFetch_coinSource : coinSource.FailsOnlyToFetch :=
  ⟨fun _ _ _ h => (by cases h), fun _ _ _ h => (by cases h)⟩

theorem isProper_payment : payment.IsProper := by
  simp [StepGraph.IsProper, payment, Arg.isTellable]

theorem isDecodable_payment : payment.IsDecodable := by
  simp only [StepGraph.IsDecodable, payment, List.forall_mem_cons]
  refine ⟨fun v hv => ?_, fun v hv => ?_, by simp⟩
  · obtain rfl : v = .str "5n" := by simpa using hv
    exact ⟨_, rfl⟩
  · obtain rfl : v = .str "0x2" := by simpa using hv
    exact ⟨_, rfl⟩

theorem refAt_payment {p : Place} {r : Ref} (h : payment.RefAt p r) :
    p = ⟨1, 1⟩ ∧ r = ⟨"take", 0, .move⟩ := by
  obtain ⟨⟨k, j⟩, s, hs, hr⟩ := p, h
  match k, j with
  | 0, 0 | 0, 1 | 1, 0 => cases hs; cases hr
  | 1, 1 =>
    cases hs
    cases hr
    exact ⟨rfl, rfl⟩
  | 0, j + 2 | 1, j + 2 => cases hs; cases hr
  | k + 2, j => cases hs

theorem foundFor_payment (id : FunctionId) : foundFor coinSource payment ⟨{}, ()⟩ id =
    [(withdraw, withdrawSignature), (deposit, depositSignature)].lookup id := by
  rw [foundFor, answerFor_of_not_cached rfl]
  rfl

theorem wellFormed_payment : WellFormed payment (foundFor coinSource payment ⟨{}, ()⟩) := by
  rw [funext foundFor_payment]
  refine ⟨?_, fun p r hr => ?_, fun p r hr q u hu hq => ?_⟩
  · simp only [payment, List.forall_mem_cons]
    exact ⟨⟨_, rfl, rfl, rfl, rfl⟩, ⟨_, rfl, rfl, rfl, rfl⟩, by simp⟩
  · obtain ⟨rfl, rfl⟩ := refAt_payment hr
    exact ⟨0, _, _, Nat.zero_lt_one, rfl, rfl, rfl, Nat.zero_lt_one⟩
  · obtain ⟨rfl, -⟩ := refAt_payment hr
    obtain ⟨rfl, -⟩ := refAt_payment hu
    simp [Place.Before] at hq

theorem validate_accepts_payment : coinSource.FailsOnlyToFetch ∧ payment.IsProper ∧
    ∃ report, (validate coinSource payment ⟨{}, ()⟩).1 = .ok report ∧ report.ok = true := by
  obtain ⟨report, hreport, hok, -⟩ :=
    validate_accepts_wellFormed failsOnlyToFetch_coinSource isProper_payment ⟨{}, ()⟩
  exact ⟨failsOnlyToFetch_coinSource, isProper_payment, report, hreport,
    hok.mpr wellFormed_payment⟩

end MovePlan.Validation
