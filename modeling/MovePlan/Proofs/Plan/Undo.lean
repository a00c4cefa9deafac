import MovePlan.Plan.Encode
import MovePlan.Proofs.Plan.Corrections
import MovePlan.Proofs.Plan.Slips

/-!
# Slips are undone

A written plan in which any of its fields has a slip is repaired to the plan that was written. Each field
is repaired whatever slips the others have: the kind of an argument first, so that the index and the mode
of a reference are seen, then the rest. The parts come back one by one, and so does the plan
(`repair_undoes_slips`).
-/

namespace MovePlan.Plan

open Graph Json Move

/-! ## Arguments and tokens -/

/-- What may be written for the value of the field that a correction names. -/
abbrev Correction.Writes (c : Correction) : Json → Json → Prop := c.slip.Writes

/-- Whether a plan is another one in which any of the fields have slips. -/
def Slipped : Json → Json → Prop := PlansAgree Correction.Writes

section Parts

variable {place : Place} {key : String} {v w : Json}

/-- A slip is written into the field it belongs to, and nothing else is. -/
theorem writes_of_slipAt {slip : Slip}
    (h : v = w ∨ SlipAt Correction.Writes place slip.key v w) : v = w ∨ slip.Writes v w := by
  refine h.imp_right ?_
  rintro ⟨slip', -, hkey, hwrites⟩
  rwa [Slip.key_injective hkey] at hwrites

/-- A field without a slip is left as it is. -/
theorem eq_of_slipAt (h : v = w ∨ SlipAt Correction.Writes place key v w)
    (hkey : key ∉ place.slips.map Slip.key) : v = w := by
  rcases h with h | ⟨slip, hmem, rfl, -⟩
  · exact h
  · exact absurd (List.mem_map_of_mem hmem) hkey

/-- The repair of a token with slips gives the token back. -/
theorem repairToken_of_slips {t : Token} {i : Nat}
    (h : PartsAgree Correction.Writes (.token i) t.toJson w) :
    (repairToken i w).1 = t.toJson := by
  obtain ⟨fs, rfl, hfs⟩ := ObjectsAgree.exists_obj h
  obtain ⟨symbol, fs, rfl, hsymbol, hfs⟩ := hfs.exists_cons
  obtain ⟨metadata, fs, rfl, hmetadata, hfs⟩ := hfs.exists_cons
  obtain ⟨decimals, fs, rfl, hdecimals, hfs⟩ := hfs.exists_cons
  cases hfs
  obtain rfl := eq_of_slipAt hsymbol (by simp [Place.slips, Slip.key])
  obtain rfl := eq_of_slipAt hmetadata (by simp [Place.slips, Slip.key])
  have hrestored := repair?_restores .decimals ⟨t.decimals, rfl⟩ (writes_of_slipAt hdecimals)
  rw [repairToken_obj]
  show Json.obj (Repaired.mend _ .decimals).fields = _
  rw [fields_mend rfl hrestored]
  rfl

/-- An argument whose kind has a slip, after the first stage of its repair. -/
theorem fields_mendKind {kind : String} (fs : Fields) (hmem : kind ∈ kindWords)
    (h : .str kind = w ∨ SlipAt Correction.Writes place "kind" (.str kind) w) :
    (mendKind (("kind", w) :: fs)).fields = ("kind", .str kind) :: fs := by
  have hrestored := repair?_restores .kind ⟨kind, hmem, rfl⟩ (writes_of_slipAt h)
  rw [mendKind, fields_mend (by rfl) hrestored]
  simp [Repaired.none, setField, Slip.key]

/-- An argument with no fields that slips are in but its kind. -/
theorem repairArgAt_of_plain {kind : String} {fs : Fields} (hmem : kind ∈ kindWords)
    (hne : kind ≠ "ref") (hkeys : ∀ f ∈ fs, f.1 ∉ place.slips.map Slip.key)
    (h : PartsAgree Correction.Writes place (.obj (("kind", .str kind) :: fs)) w) :
    (repairArgAt place w).1 = .obj (("kind", .str kind) :: fs) := by
  obtain ⟨gs, rfl, hgs⟩ := ObjectsAgree.exists_obj h
  obtain ⟨kind', gs, rfl, hkind, hgs⟩ := hgs.exists_cons
  obtain rfl : fs = gs := hgs.eq fun f hf w hw => by
    obtain ⟨slip, hmem, hkey, -⟩ := hw
    exact hkeys f hf (hkey ▸ List.mem_map_of_mem hmem)
  have hfields := fields_mendKind fs hmem hkind
  rw [repairArgAt_obj, repairArg_of_ne_ref, hfields]
  rw [hfields]
  simpa [field?] using hne

theorem repairArgAt_of_ref {i j : Nat} {step : Json} {index : Nat} {mode : Mode}
    (h : PartsAgree Correction.Writes (.arg i j) (encodeRef step index mode) w) :
    (repairArgAt (.arg i j) w).1 = encodeRef step index mode := by
  obtain ⟨fs, rfl, hfs⟩ := ObjectsAgree.exists_obj h
  obtain ⟨kind, fs, rfl, hkind, hfs⟩ := hfs.exists_cons
  obtain ⟨step', fs, rfl, hstep, hfs⟩ := hfs.exists_cons
  obtain ⟨index', fs, rfl, hindex, hfs⟩ := hfs.exists_cons
  obtain ⟨mode', fs, rfl, hmode, hfs⟩ := hfs.exists_cons
  cases hfs
  obtain rfl := eq_of_slipAt hstep (by simp [Place.slips, Slip.key])
  have hindex := repair?_restores .returnIndex ⟨index, rfl⟩ (writes_of_slipAt hindex)
  have hmode := repair?_restores .mode ⟨mode, rfl⟩ (writes_of_slipAt hmode)
  -- with its kind mended the argument is seen to be a reference, and the rest is reached
  have hfields := fields_mendKind [("step", step), ("returnIndex", index'), ("mode", mode')]
    (by decide) hkind
  have hfields' : ((mendKind [("kind", kind), ("step", step), ("returnIndex", index'),
      ("mode", mode')]).mend .returnIndex).fields =
      [("kind", .str "ref"), ("step", step), ("returnIndex", .nat index), ("mode", mode')] := by
    rw [fields_mend (by rw [hfields]; rfl) hindex, hfields]
    rfl
  rw [repairArgAt_obj, repairArg_of_ref (by rw [hfields]; rfl), mendRef,
    fields_mend (by rw [hfields']; rfl) hmode, hfields']
  rfl

/-- **An argument that is written with slips is repaired to the argument that was meant.** -/
theorem repairArgAt_of_slips {i j : Nat} {a : Arg} (ha : a.kind?.isSome = true)
    (h : PartsAgree Correction.Writes (.arg i j) (encodeArg a) w) :
    (repairArgAt (.arg i j) w).1 = encodeArg a := by
  cases a with
  | signer => exact repairArgAt_of_plain (by decide) (by decide) (by simp) h
  | literal v =>
    exact repairArgAt_of_plain (by decide) (by decide) (by simp [Place.slips, Slip.key]) h
  | ref r => exact repairArgAt_of_ref h
  | strayRef step index mode => exact repairArgAt_of_ref h
  | foreign v => cases ha

end Parts

/-! ## Steps and plans -/

section Lists

variable {i : Nat} {key : String} {v w : Json}

/-- The fields of a step other than its arguments have slips of their own. -/
theorem slipAt_of_stepField (hne : key ≠ "args") (h : v = w ∨ StepField Correction.Writes i key v w) :
    v = w ∨ SlipAt Correction.Writes (.step i) key v w :=
  h.imp_right fun h => Or.resolve_right h fun hargs => hne hargs.1

/-- The arguments differ in their own fields only. -/
theorem argsAgree_of_stepField (h : v = w ∨ StepField Correction.Writes i "args" v w) :
    ItemsAgree (fun j => PartsAgree Correction.Writes (.arg i j)) v w := by
  rcases h with rfl | ⟨slip, -, hkey, -⟩ | ⟨-, hitems⟩
  · exact .refl (fun _ => ObjectsAgree.refl) _
  · exact absurd hkey slip.key_ne_args
  · exact hitems

theorem stepsAgree_of_planField (h : v = w ∨ PlanField Correction.Writes "steps" v w) :
    ItemsAgree (StepsAgree Correction.Writes) v w := by
  rcases h with rfl | ⟨-, hitems⟩ | ⟨hkey, -⟩
  · exact .refl (fun _ => ObjectsAgree.refl) _
  · exact hitems
  · exact absurd hkey (by decide)

theorem tokensAgree_of_planField (h : v = w ∨ PlanField Correction.Writes "tokens" v w) :
    ItemsAgree (fun i => PartsAgree Correction.Writes (.token i)) v w := by
  rcases h with rfl | ⟨hkey, -⟩ | ⟨-, hitems⟩
  · exact .refl (fun _ => ObjectsAgree.refl) _
  · exact absurd hkey (by decide)
  · exact hitems

end Lists

/-- A list whose items are repaired to what was meant. -/
theorem repairList_of_slips {α : Type} {encode : α → Json} {xs : List α} {key : String}
    {R : Nat → Json → Json → Prop} {repair : Nat → Json → Json × List Correction} {fields : Fields}
    {w : Json} (hw : field? key fields = some w) (h : ItemsAgree R (.arr (xs.map encode)) w)
    (hitem : ∀ k, ∀ x ∈ xs, ∀ w, R k (encode x) w → (repair k w).1 = encode x) :
    (repairList key repair fields).1 = setField key (.arr (xs.map encode)) fields := by
  obtain ⟨ys, rfl, hlen, hitems⟩ := h.exists_arr
  have hvalue : valueOfField fields key = .arr ys := by rw [valueOfField, hw]; rfl
  rw [repairList_of_arr hvalue, repairEach_eq hlen]
  intro k x y hx hy
  have hxy := hitems k x y hx hy
  rw [List.getElem?_map] at hx
  obtain ⟨a, ha, rfl⟩ := Option.map_eq_some_iff.mp hx
  exact hitem k a (List.mem_of_getElem? ha) y hxy

/-- The head of a step, after its repair. -/
theorem fields_repairHead {id : FunctionId} {ts : List Json} {function types : Json}
    (label args : Json) (hfunction : (Slip.function.repair? function).getD function = .str id.text)
    (htypes : (Slip.typeArguments.repair? types).getD types = .arr ts) :
    (repairHead [("label", label), ("function", function), ("typeArguments", types),
      ("args", args)]).fields = [("label", label), ("function", .str id.text),
        ("typeArguments", .arr ts), ("args", args)] := by
  have hfields : ((Repaired.none [("label", label), ("function", function), ("typeArguments", types),
      ("args", args)]).mend .function).fields = [("label", label), ("function", .str id.text),
        ("typeArguments", types), ("args", args)] := by
    rw [fields_mend rfl hfunction]
    rfl
  rw [repairHead_eq, fields_mend (by rw [hfields]; rfl) htypes, hfields]
  rfl

/-- **A step that is written with slips is repaired to the step that was meant.** -/
theorem repairStep_of_slips {s : Step} {i : Nat} {w : Json} (hs : IsStrict s.function)
    (hargs : ∀ a ∈ s.args, a.kind?.isSome = true)
    (h : StepsAgree Correction.Writes i (encodeStep s) w) :
    (repairStep i w).1 = encodeStep s := by
  obtain ⟨fs, rfl, hfs⟩ := ObjectsAgree.exists_obj h
  obtain ⟨label, fs, rfl, hlabel, hfs⟩ := hfs.exists_cons
  obtain ⟨function, fs, rfl, hfunction, hfs⟩ := hfs.exists_cons
  obtain ⟨types, fs, rfl, htypes, hfs⟩ := hfs.exists_cons
  obtain ⟨args, fs, rfl, hargs', hfs⟩ := hfs.exists_cons
  cases hfs
  obtain rfl := eq_of_slipAt (slipAt_of_stepField (by decide) hlabel) (by simp [Place.slips, Slip.key])
  have hfunction := repair?_restores .function ⟨s.function, hs, rfl⟩
    (writes_of_slipAt (slipAt_of_stepField (by decide) hfunction))
  have htypes := repair?_restores .typeArguments ⟨s.typeArguments, rfl⟩
    (writes_of_slipAt (slipAt_of_stepField (by decide) htypes))
  have hfields := fields_repairHead (.str s.label) args hfunction htypes
  rw [repairStep_obj]
  show Json.obj (repairArgs i _).1 = _
  rw [hfields, repairArgs, repairList_of_slips rfl (argsAgree_of_stepField hargs')
    fun j a ha w => repairArgAt_of_slips (hargs a ha)]
  rfl

/-- A plan is repaired step by step and then token by token. -/
theorem repair_obj (fields : Fields) : (repair (.obj fields)).1 =
    .obj (repairList "tokens" repairToken (repairList "steps" repairStep fields).1).1 := rfl

section Plans

variable {g : StepGraph} {tokens : List Token}

/-- The repair of a plan with slips gives the plan back. -/
theorem fst_repair_of_slips {p : Json} (hg : ∀ s ∈ g.steps, IsStrict s.function)
    (hargs : ∀ s ∈ g.steps, ∀ a ∈ s.args, a.kind?.isSome = true)
    (hp : Slipped (encode g tokens) p) : (repair p).1 = encode g tokens := by
  have hstep : ∀ k, ∀ s ∈ g.steps, ∀ w, StepsAgree Correction.Writes k (encodeStep s) w →
      (repairStep k w).1 = encodeStep s := fun k s hs w =>
    repairStep_of_slips (hg s hs) (hargs s hs)
  unfold Slipped encode at hp
  unfold encode
  split
  · next hempty =>
    rw [if_pos hempty] at hp
    obtain ⟨fs, rfl, hfs⟩ := ObjectsAgree.exists_obj hp
    obtain ⟨steps, fs, rfl, hsteps, hfs⟩ := hfs.exists_cons
    cases hfs
    rw [repair_obj, repairList_of_slips rfl (stepsAgree_of_planField hsteps) hstep]
    rfl
  · next hempty =>
    rw [if_neg hempty] at hp
    obtain ⟨fs, rfl, hfs⟩ := ObjectsAgree.exists_obj hp
    obtain ⟨tokens', fs, rfl, htokens, hfs⟩ := hfs.exists_cons
    obtain ⟨steps, fs, rfl, hsteps, hfs⟩ := hfs.exists_cons
    cases hfs
    rw [repair_obj, repairList_of_slips rfl (stepsAgree_of_planField hsteps) hstep,
      repairList_of_slips rfl (tokensAgree_of_planField htokens) fun i t _ w => repairToken_of_slips]
    rfl

/-- **A plan that is written with slips is repaired to the plan that was meant, with one correction for
each field in which the two differ.** -/
theorem repair_undoes_slips {q p : Json} (hq : encode? g tokens = .ok q)
    (hg : ∀ s ∈ g.steps, IsStrict s.function) (hp : Slipped q p) :
    (repair p).1 = q ∧ (repair p).2.Nodup ∧ ∀ c, c ∈ (repair p).2 ↔ c.value? p ≠ c.value? q := by
  obtain ⟨rfl, hargs⟩ := encode?_eq_ok_iff.mp hq
  have hkinds : ∀ s ∈ g.steps, ∀ a ∈ s.args, a.kind?.isSome = true := fun s hs a ha =>
    kind?_isSome_of_argFault? (hargs s hs a ha)
  have hrepair := fst_repair_of_slips hg hkinds hp
  refine ⟨hrepair, (planMended_repair p).nodup, fun c => ?_⟩
  rw [← hrepair]
  exact mem_repair_iff p c

end Plans

/-! ## A peek with slips -/

theorem isIdentifier_take : FunctionId.isIdentifier "take".toList = true := by decide

def taking : Step :=
  ⟨"take", ⟨"0xb2", "vault", "take", by decide, by decide, isIdentifier_take⟩, [], [.signer]⟩

def peeking : Step :=
  ⟨"peek", { address := "0xb2", module := "vault", function := "peek" }, [.str "u8"],
    [.ref ⟨"take", 0, .borrowMut⟩]⟩

/-- Takes a coin and looks at it. -/
def peek : StepGraph where
  steps := [taking, peeking]
  label_ne_empty := by simp [taking, peeking]
  nodup_labels := by simp [taking, peeking]

def peekToken : Token := ⟨"USDC", "0xc1", 6⟩

def takingWithSlips : Json :=
  .obj [("label", .str "take"), ("function", .str "b2::vault::take"), ("typeArguments", .null),
    ("args", .arr [.obj [("kind", .str " Signer")]])]

def peekingWithSlips : Json :=
  .obj [("label", .str "peek"), ("function", .str "0xb2::vault::peek"),
    ("typeArguments", .arr [.str "u8"]), ("args", .arr [
      .obj [("kind", .str "REF"), ("step", .str "take"), ("returnIndex", .str " 0 "),
        ("mode", .str "borrow-Mut")]])]

def tokenWithSlips : Json :=
  .obj [("symbol", .str "USDC"), ("metadata", .str "0xc1"), ("decimals", .str "6")]

/-- The same plan with a slip of every kind. -/
def peekWithSlips : Json :=
  .obj [("tokens", .arr [tokenWithSlips]), ("steps", .arr [takingWithSlips, peekingWithSlips])]

theorem slipped_taking : StepsAgree Correction.Writes 0 (encodeStep taking) takingWithSlips := by
  have hsigner : PartsAgree Correction.Writes (.arg 0 0) (encodeArg .signer)
      (.obj [("kind", .str " Signer")]) :=
    .cons ⟨rfl, Or.inr ⟨.kind, by decide, rfl, "signer", " Signer", "Signer".toList, rfl, rfl,
      ⟨[' '], [], by simp⟩, by decide⟩⟩ .nil
  refine .cons ⟨rfl, Or.inl rfl⟩ (.cons ⟨rfl, Or.inr (Or.inl ?_)⟩
    (.cons ⟨rfl, Or.inr (Or.inl ?_)⟩ (.cons ⟨rfl, Or.inr (Or.inr ⟨rfl, ?_⟩)⟩ .nil)))
  · exact ⟨.function, by decide, rfl, "0xb2::vault::take", "b2::vault::take", rfl, rfl, rfl⟩
  · exact ⟨.typeArguments, by decide, rfl, rfl, rfl⟩
  · exact .cons hsigner .nil

theorem slipped_peeking : StepsAgree Correction.Writes 1 (encodeStep peeking) peekingWithSlips := by
  have href : PartsAgree Correction.Writes (.arg 1 0) (encodeArg (.ref ⟨"take", 0, .borrowMut⟩))
      (.obj [("kind", .str "REF"), ("step", .str "take"), ("returnIndex", .str " 0 "),
        ("mode", .str "borrow-Mut")]) := by
    refine .cons ⟨rfl, Or.inr ?_⟩ (.cons ⟨rfl, Or.inl rfl⟩ (.cons ⟨rfl, Or.inr ?_⟩
      (.cons ⟨rfl, Or.inr ?_⟩ .nil)))
    · exact ⟨.kind, by decide, rfl, "ref", "REF", "REF".toList, rfl, rfl, ⟨[], [], by simp⟩,
        by decide⟩
    · exact ⟨.returnIndex, by decide, rfl, 0, " 0 ", rfl, rfl, by decide, [' '], [' '], by decide, by simp, by simp⟩
    · exact ⟨.mode, by decide, rfl, "borrow_mut", "borrow-Mut", rfl, rfl, by decide⟩
  exact .cons ⟨rfl, Or.inl rfl⟩ (.cons ⟨rfl, Or.inl rfl⟩ (.cons ⟨rfl, Or.inl rfl⟩
    (.cons ⟨rfl, Or.inr (Or.inr ⟨rfl, .cons href .nil⟩)⟩ .nil)))

theorem slipped_token : PartsAgree Correction.Writes (.token 0) peekToken.toJson tokenWithSlips := by
  refine .cons ⟨rfl, Or.inl rfl⟩ (.cons ⟨rfl, Or.inl rfl⟩ (.cons ⟨rfl, Or.inr ?_⟩ .nil))
  exact ⟨.decimals, by decide, rfl, 6, "6", rfl, rfl, by decide, [], [], by decide, by simp, by simp⟩

theorem slipped_peek : Slipped (encode peek [peekToken]) peekWithSlips := by
  refine .cons ⟨rfl, Or.inr (Or.inr ⟨rfl, ?_⟩)⟩ (.cons ⟨rfl, Or.inr (Or.inl ⟨rfl, ?_⟩)⟩ .nil)
  · exact .cons slipped_token .nil
  · exact .cons slipped_taking (.cons slipped_peeking .nil)

theorem repair_undoes_slips_peek : (repair peekWithSlips).1 = encode peek [peekToken] ∧
    (repair peekWithSlips).2.Nodup ∧ ∀ c, c ∈ (repair peekWithSlips).2 ↔
      c.value? peekWithSlips ≠ c.value? (encode peek [peekToken]) := by
  have hq : encode? peek [peekToken] = .ok (encode peek [peekToken]) := rfl
  have hstrict : ∀ s ∈ peek.steps, IsStrict s.function := by
    simp only [peek, List.forall_mem_cons]
    exact ⟨by decide, by decide, by simp⟩
  exact repair_undoes_slips hq hstrict slipped_peek

end MovePlan.Plan
