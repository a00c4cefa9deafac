import MovePlan.Proofs.Plan.Corrections
import MovePlan.Proofs.Plan.Grammar

/-!
# What is decoded is not repaired

No field of a plan that is decoded has a slip, but for null type arguments: the words for kinds and modes
are those that the repair leaves, indices and decimals are integers, and a function that is parsed has its
`0x`. Null type arguments are decoded as an empty list, which is what they are repaired to. So a plan and
its repair are decoded to the same document (`decode_repair`).
-/

namespace MovePlan.Plan

open Graph Json Move Text Error

/-! ## Fields -/

/-- The declared kinds need no repair. -/
theorem repairKind?_of_mem {s : String} (h : s ∈ kindWords) : repairKind? s = none := by
  simp [repairKind?, h]

/-- The two modes need no repair. -/
theorem repairMode?_word (m : Mode) : repairMode? m.word = none := by
  rw [repairMode?, Mode.ofWord?_word]
  rfl

/-- A function that is parsed has its `0x`. -/
theorem repairFunction?_of_parse {s : String} {id : FunctionId} (h : FunctionId.parse s = .ok id) :
    repairFunction? s.toList = none := by
  unfold FunctionId.parse FunctionId.parseChars at h
  split at h
  · next a m f hsplit =>
    split at h
    · next ha =>
      obtain ⟨rest, hrest⟩ := prefix_of_splitPath hsplit
      unfold Address.isWellFormed at ha
      split at ha
      · rw [← hrest]
        exact repairFunction?_hex _
      · cases ha
    · cases h
  · cases h

/-! ## Arguments and tokens -/

theorem mendKind_of_mem {fields : Fields} {kind : String} (hmem : kind ∈ kindWords)
    (h : field? "kind" fields = some (.str kind)) : mendKind fields = .none fields := by
  refine mend_eq_self fun v hv => ?_
  obtain rfl : .str kind = v := Option.some.inj (h.symm.trans hv)
  rw [Slip.repair?, Json.text?, Option.bind_some, repairKind?_of_mem hmem]
  rfl

/-- An argument of another kind than a reference is not looked at any further. -/
theorem repairArg_of_plain {fields : Fields} {kind : String} (hmem : kind ∈ kindWords)
    (hne : kind ≠ "ref") (h : field? "kind" fields = some (.str kind)) :
    repairArg fields = .none fields := by
  have hkind := mendKind_of_mem hmem h
  rw [repairArg_of_ne_ref, hkind]
  rw [hkind, Repaired.none, h]
  exact fun he => hne (Json.str.inj (Option.some.inj he))

theorem repairArg_of_argForm {fields : Fields} (h : ArgForm fields) :
    repairArg fields = .none fields := by
  cases h with
  | signer h => exact repairArg_of_plain (by decide) (by decide) h
  | literal h => exact repairArg_of_plain (by decide) (by decide) h
  | ref h hindex hmode =>
    have hkind := mendKind_of_mem (by decide) h
    have hindex : (Repaired.none fields).mend .returnIndex = .none fields := by
      refine mend_eq_self fun v hv => ?_
      rw [← Option.some.inj (hindex.symm.trans hv)]
      rfl
    have hmode : (Repaired.none fields).mend .mode = .none fields := by
      refine mend_eq_self fun v hv => ?_
      obtain ⟨m, rfl⟩ := hmode v hv
      rw [Slip.repair?, Json.text?, Option.bind_some, repairMode?_word]
      rfl
    rw [repairArg_of_ref (by rw [hkind]; exact h), hkind, mendRef, hindex, hmode]

theorem repairArgAt_of_argForm {fields : Fields} (h : ArgForm fields) (place : Place) :
    repairArgAt place (.obj fields) = (.obj fields, []) := by
  rw [repairArgAt_obj, repairArg_of_argForm h]
  rfl

theorem repairToken_of_decimals {fields : Fields} {n : Int}
    (h : field? "decimals" fields = some (.int n)) (i : Nat) :
    repairToken i (.obj fields) = (.obj fields, []) := by
  rw [repairToken_obj, mend_eq_self]
  · rfl
  · intro v hv
    rw [← Option.some.inj (h.symm.trans hv)]
    rfl

/-! ## Steps -/

theorem mendFunction_of_parse {fields : Fields} {s : String} {id : FunctionId}
    (hfield : field? "function" fields = some (.str s))
    (hparse : StepGraph.functionOf (.str s) = .ok id) :
    (Repaired.none fields).mend .function = .none fields := by
  refine mend_eq_self fun v hv => ?_
  obtain rfl : .str s = v := Option.some.inj (hfield.symm.trans hv)
  unfold StepGraph.functionOf at hparse
  split at hparse
  · next s' heq =>
    cases heq
    split at hparse
    · next hs =>
      rw [Slip.repair?, Json.text?, Option.bind_some, repairFunction?_of_parse hs]
      rfl
    · cases hparse
  · next heq => exact absurd rfl (heq s)

/-- Null and an empty list are decoded to the same type arguments. -/
theorem decodeStep_setField_typeArguments {path : String} {fields : Fields}
    (h : field? "typeArguments" fields = some .null) :
    decodeStep path (.obj (setField "typeArguments" (.arr []) fields)) = decodeStep path (.obj fields) := by
  have hkeep : ∀ key, key ≠ "typeArguments" → Json.get key
      (.obj (setField "typeArguments" (.arr []) fields)) = Json.get key (.obj fields) := by
    intro key hkey
    simp only [Json.get, Json.get?, field?_setField_of_ne hkey]
  have htypes : typeArgumentsAt s!"{path}.typeArguments" (Json.get "typeArguments"
      (.obj (setField "typeArguments" (.arr []) fields))) =
        typeArgumentsAt s!"{path}.typeArguments" (Json.get "typeArguments" (.obj fields)) := by
    simp only [Json.get, Json.get?, field?_setField_self, h]
    rfl
  rw [decodeStep, decodeStep, htypes, hkeep "label" (by decide), hkeep "function" (by decide),
    hkeep "args" (by decide)]
  rfl

/-- In a step that is decoded and added to a graph, nothing but the type arguments is repaired, and they
are decoded as before. -/
theorem decodeStep_repairStep {path : String} {v : Json} {draft : StepGraph.Draft}
    {g g' : StepGraph} (h : decodeStep path v = .ok draft) (hadd : g.add draft = .ok g') (i : Nat) :
    decodeStep path (repairStep i v).1 = .ok draft ∧
      ∀ c ∈ (repairStep i v).2, c.slip = .typeArguments := by
  obtain ⟨fields, rfl⟩ := exists_obj_of_decodeStep h
  obtain ⟨label, function, types, xs, args, hlabel, hfunction, htypes, hxs, hargs, rfl⟩ :=
    decodeStep_obj_eq_ok_iff.mp h
  obtain ⟨s, hs, -⟩ := StepGraph.exists_step_of_add hadd
  have hhead : repairHead fields = (Repaired.none fields).mend .typeArguments := by
    rw [repairHead_eq, mendFunction_of_parse (field?_of_getD hfunction nofun) hs.function]
  have hnone : ∀ fs, valueOfField fs "args" = .arr xs → repairArgs i fs = (fs, []) := by
    intro fs hfs
    refine repairList_of_forall fun ys hys k x hx => ?_
    obtain rfl := Json.arr.inj (hys.symm.trans hfs)
    obtain ⟨path, a, ha⟩ := exists_of_decodeEach hargs x hx
    obtain ⟨fields, rfl, hform⟩ := argForm_of_decodeArg ha
    exact repairArgAt_of_argForm hform _
  by_cases hnull : field? "typeArguments" fields = some .null
  · have hset : repairHead fields =
        ⟨setField "typeArguments" (.arr []) fields, [.typeArguments]⟩ := by
      rw [hhead, mend_typeArguments, Repaired.none, repairTypeArguments?, hnull]
      rfl
    have hxs' : valueOfField (setField "typeArguments" (.arr []) fields) "args" = .arr xs := by
      rw [valueOfField, field?_setField_of_ne (by decide)]
      exact hxs
    rw [repairStep_obj, hset, hnone _ hxs']
    exact ⟨(decodeStep_setField_typeArguments hnull).trans h, by simp [Repaired.corrections]⟩
  · have hset : repairHead fields = .none fields := by
      rw [hhead]
      refine mend_eq_self fun v hv => ?_
      cases v with
      | null => exact absurd hv hnull
      | _ => rfl
    rw [repairStep_obj, hset, Repaired.none, hnone _ hxs]
    exact ⟨h, by simp [Repaired.corrections]⟩

theorem decodeSteps_repairEach {steps : List Json} {g g' : StepGraph} {i : Nat}
    (h : decodeSteps i steps g = .ok g') :
    decodeSteps i (repairEach repairStep i steps).1 g = .ok g' ∧
      ∀ c ∈ (repairEach repairStep i steps).2, c.slip = .typeArguments := by
  induction steps generalizing i g with
  | nil => exact ⟨h, by simp [repairEach]⟩
  | cons s rest ih =>
    obtain ⟨draft, g₁, hdraft, hadd, hrest⟩ := decodeSteps_cons_eq_ok_iff.mp h
    obtain ⟨hdraft', hslips⟩ := decodeStep_repairStep hdraft hadd i
    obtain ⟨hrest', hslips'⟩ := ih hrest
    exact ⟨decodeSteps_cons_eq_ok_iff.mpr ⟨draft, g₁, hdraft', hadd, hrest'⟩,
      List.forall_mem_append.mpr ⟨hslips, hslips'⟩⟩

/-! ## Plans -/

/-- No token that is decoded is repaired. -/
theorem repairTokens_of_decodeTokens {fields : Fields} {tokens : List Token}
    (h : decodeTokens (valueOfField fields "tokens") = .ok tokens) :
    repairList "tokens" repairToken fields = (fields, []) := by
  refine repairList_of_forall fun xs hxs k x hx => ?_
  rw [hxs] at h
  obtain ⟨path, t, ht⟩ := exists_of_decodeEach h x hx
  obtain ⟨fields, n, rfl, hn⟩ := decimals_of_decodeToken ht
  exact repairToken_of_decimals hn k

/-- **A plan that is decoded is decoded to the same document after its repair, and nothing but null type
arguments is repaired in it.** -/
theorem decode_repair {p : Json} {doc : Document} (h : decode p = .ok doc) :
    decode (repair p).1 = .ok doc ∧ ∀ c ∈ (repair p).2, c.slip = .typeArguments ∧
      c.value? p = some .null ∧ c.value? (repair p).1 = some (.arr []) := by
  obtain ⟨fields, steps, tokens, graph, rfl, hsteps, htokens, hgraph, rfl⟩ := decode_eq_ok_iff.mp h
  obtain ⟨hgraph', hslips⟩ := decodeSteps_repairEach hgraph
  have htokens' : decodeTokens (valueOfField (setField "steps"
      (.arr (repairEach repairStep 0 steps).1) fields) "tokens") = .ok tokens := by
    rw [valueOfField, field?_setField_of_ne (by decide)]
    exact htokens
  have hrepair : repair (.obj fields) = (.obj (setField "steps"
      (.arr (repairEach repairStep 0 steps).1) fields), (repairEach repairStep 0 steps).2) := by
    rw [repair, repairList_of_arr hsteps]
    simp only [repairTokens_of_decodeTokens htokens', List.append_nil]
  constructor
  · rw [hrepair]
    refine decode_eq_ok_iff.mpr ⟨_, _, tokens, graph, rfl, ?_, htokens', hgraph', rfl⟩
    rw [Json.get, Json.get?, field?_setField_self]
    rfl
  · intro c hc
    have hslip : c.slip = .typeArguments := hslips c (by rwa [hrepair] at hc)
    have hmended := planMended_repair (.obj fields)
    rcases hmended.agree.value? c with heq | ⟨v, w, hv, hw, -, hmends⟩
    · exact absurd heq (hmended.differ c hc)
    · rw [hslip] at hmends
      obtain ⟨rfl, rfl⟩ := hmends
      exact ⟨hslip, hv, hw⟩

/-- A plan without type arguments. -/
def untyped : Json :=
  .obj [("steps", .arr [.obj [("label", .str "ping"), ("function", .str "0x1::net::ping"),
    ("typeArguments", .null), ("args", .arr [.obj [("kind", .str "signer")]])]])]

theorem decode_repair_untyped : (repair untyped).2 = [⟨.step 0, .typeArguments⟩] ∧
    ∃ doc, decode untyped = .ok doc ∧ decode (repair untyped).1 = .ok doc ∧
      ∀ c ∈ (repair untyped).2, c.slip = .typeArguments ∧
        c.value? untyped = some .null ∧ c.value? (repair untyped).1 = some (.arr []) :=
  ⟨by decide, _, rfl, decode_repair rfl⟩

end MovePlan.Plan
