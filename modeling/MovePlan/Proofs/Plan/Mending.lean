import MovePlan.Proofs.Plan.Stages
import MovePlan.Proofs.Text.Case
import MovePlan.Proofs.Text.Numeral

/-!
# Repairs mend what they name

What the repair does to a field is what the name of its slip says (`mends_of_repair?`), and it does so
to the fields that the corrections name, each once. What the corrections of a repair owe (`Mended`) is
kept by stages that name different fields (`Mended.trans`); it is shown here for the parts of a plan that
hold the fields.
-/

namespace MovePlan.Plan

open Graph Text Json

/-- What the repair of a slip may do to a value. A text becomes the integer that it spells; a mode
keeps its letters of ASCII, in whatever case; a kind keeps all but its letter case and the blanks
around it; a function gains a `0x` and may lose the blanks around it. -/
def Slip.Mends : Slip → Json → Json → Prop
  | .returnIndex, v, w | .decimals, v, w => ∃ s n, v = .str s ∧ w = .int n ∧ Spells s.toList n
  | .mode, v, w => ∃ (s : String) (m : Mode), v = .str s ∧ w = .str m.word ∧
      asciiLetters s.toList = asciiLetters m.word.toList
  | .kind, v, w => ∃ (s t : String) (core : List Char), v = .str s ∧ w = .str t ∧
      Padded isBlank core s.toList ∧ lower core = lower t.toList
  | .function, v, w => ∃ (s t : String) (core : List Char), v = .str s ∧ w = .str t ∧
      Padded isBlank core s.toList ∧ t.toList = '0' :: 'x' :: core
  | .typeArguments, v, w => v = .null ∧ w = .arr []

/-! ## Single fields -/

theorem lower_kindWord {t : String} (h : t ∈ kindWords) : lower t.toList = t.toList := by
  simp only [kindWords, List.mem_cons, List.not_mem_nil, or_false] at h
  rcases h with rfl | rfl | rfl <;> rfl

/-- A kind is mended to one with the same letters, and not for nothing. -/
theorem mends_kind {s t : String} (h : repairKind? s = some t) :
    Slip.kind.Mends (.str s) (.str t) ∧ s ≠ t := by
  simp only [repairKind?, Bool.and_eq_true, Bool.not_eq_true', List.contains_iff_mem,
    Option.ite_none_right_eq_some, Option.some.injEq] at h
  obtain ⟨⟨hs, ht⟩, rfl⟩ := h
  refine ⟨⟨s, _, trim s.toList, rfl, rfl, padded_trimBy isBlank s.toList, ?_⟩, fun he => ?_⟩
  · rw [lower_kindWord ht, String.toList_ofList]
  · rw [← he, ← List.contains_iff_mem, hs] at ht
    cases ht

theorem asciiLetters_word (m : Mode) :
    m.word.toList.filter (· != '_') = asciiLetters m.word.toList := by
  cases m <;> decide

/-- Only the letters of a mode are those of a mode. -/
theorem modeOfLetters?_eq_some {s : List Char} {m : Mode} (h : modeOfLetters? s = some m) :
    s = asciiLetters m.word.toList := by
  have hm := List.find?_some h
  rw [beq_iff_eq, asciiLetters_word] at hm
  exact hm.symm

theorem letters_eq (s : String) : letters s = (lower s.toList).filter Char.isLower := rfl

/-- A mode is mended to one with the same letters of ASCII. -/
theorem mends_mode {s : String} {m : Mode} (h : repairMode? s = some m) :
    Slip.mode.Mends (.str s) (.str m.word) ∧ s ≠ m.word := by
  unfold repairMode? at h
  split at h
  · cases h
  · next hword =>
    have hletters := modeOfLetters?_eq_some h
    refine ⟨⟨s, m, rfl, rfl, ?_⟩, fun he => hword (by rw [he, Mode.ofWord?_word]; rfl)⟩
    rw [← hletters, letters_eq]
    refine (filter_isLower_lower ?_).symm
    -- no mode has an `i` or a `k`
    rw [← letters_eq, hletters]
    cases m <;> simp [asciiLetters, Mode.word]

/-- A number is mended from a text that spells it. -/
theorem mends_integer {v : Json} {n : Int} (h : repairInteger? v = some n) :
    (∃ s, v = .str s ∧ Spells s.toList n) ∧ v ≠ .int n := by
  obtain ⟨s, hs, hread⟩ := Option.bind_eq_some_iff.mp h
  obtain rfl := eq_str_of_text? hs
  exact ⟨⟨s, rfl, (spells_of_readInt? hread).of_padded (padded_trimBy isBlank s.toList)⟩, nofun⟩

/-- A function with `0x` in front is not repaired. -/
theorem repairFunction?_hex (rest : List Char) : repairFunction? ('0' :: 'x' :: rest) = none := by
  have hblank : ∀ c ∈ ['0', 'x'], isBlank c = false :=
    List.forall_mem_cons.mpr ⟨by decide, List.forall_mem_singleton.mpr (by decide)⟩
  have htrim : trim ('0' :: 'x' :: rest) = '0' :: 'x' :: dropWhileEnd isBlank rest :=
    trimBy_append hblank (List.cons_ne_nil _ _) rest
  have hcut : ∀ s, cutPath? ('0' :: 'x' :: s) =
      (cutPath? s).map fun r => ('0' :: 'x' :: r.1, r.2) := fun s => by
    show Option.map _ (Option.map _ (cutPath? s)) = _
    rw [Option.map_map]
    rfl
  simp only [repairFunction?, htrim, hcut]
  split
  · next head _ hhead =>
    obtain ⟨r, -, hr⟩ := Option.map_eq_some_iff.mp hhead
    rw [← (Prod.mk.inj hr).1, if_neg fun h => h.1 rfl]
  · rfl

/-- A function is mended by the prefix of its address. -/
theorem mends_function {s : String} {t : List Char} (h : repairFunction? s.toList = some t) :
    Slip.function.Mends (.str s) (.str (String.ofList t)) ∧ s ≠ String.ofList t := by
  have ht : t = '0' :: 'x' :: trim s.toList := by
    simp only [repairFunction?] at h
    split at h
    · split at h
      · exact (Option.some.inj h).symm
      · cases h
    · cases h
  refine ⟨⟨s, _, trim s.toList, rfl, rfl, padded_trimBy isBlank s.toList, by simp [ht]⟩, ?_⟩
  intro he
  have hs : s.toList = t := by rw [he, String.toList_ofList]
  rw [hs, ht, repairFunction?_hex] at h
  cases h

/-- **What a field with a slip is given is what the slip's name says, and it is another value than the
field had.** -/
theorem mends_of_repair? {slip : Slip} {v w : Json} (h : slip.repair? v = some w) :
    slip.Mends v w ∧ v ≠ w := by
  cases slip with
  | returnIndex | decimals =>
    obtain ⟨n, hn, rfl⟩ := Option.map_eq_some_iff.mp h
    obtain ⟨⟨s, rfl, hspells⟩, hne⟩ := mends_integer hn
    exact ⟨⟨s, n, rfl, rfl, hspells⟩, hne⟩
  | mode =>
    obtain ⟨m, hm, rfl⟩ := Option.map_eq_some_iff.mp h
    obtain ⟨s, hs, hm⟩ := Option.bind_eq_some_iff.mp hm
    obtain rfl := eq_str_of_text? hs
    exact ⟨(mends_mode hm).1, fun he => (mends_mode hm).2 (Json.str.inj he)⟩
  | kind =>
    obtain ⟨t, ht, rfl⟩ := Option.map_eq_some_iff.mp h
    obtain ⟨s, hs, ht⟩ := Option.bind_eq_some_iff.mp ht
    obtain rfl := eq_str_of_text? hs
    exact ⟨(mends_kind ht).1, fun he => (mends_kind ht).2 (Json.str.inj he)⟩
  | function =>
    obtain ⟨t, ht, rfl⟩ := Option.map_eq_some_iff.mp h
    obtain ⟨s, hs, ht⟩ := Option.bind_eq_some_iff.mp ht
    obtain rfl := eq_str_of_text? hs
    exact ⟨(mends_function ht).1, fun he => (mends_function ht).2 (Json.str.inj he)⟩
  | typeArguments =>
    cases v with
    | null => cases h; exact ⟨⟨rfl, rfl⟩, nofun⟩
    | _ => cases h

/-! ## Parts -/

/-- What a list of corrections allows at a field: that it names the field, and that its slip is mended
there. -/
def MendedBy (cs : List Correction) (c : Correction) (v w : Json) : Prop :=
  c ∈ cs ∧ c.slip.Mends v w

/-- What the corrections of a value owe, where `A` tells how the value agrees with its repair and
`value` what a correction names in it: the two agree but for what is mended, and every correction is of
the value, names a field that becomes another one, and comes once. -/
structure Mended (A : (Correction → Json → Json → Prop) → Json → Json → Prop)
    (value : Correction → Json → Option Json) (IsOf : Correction → Prop) (v w : Json)
    (cs : List Correction) : Prop where
  agree : A (MendedBy cs) v w
  isOf : ∀ c ∈ cs, IsOf c
  differ : ∀ c ∈ cs, value c v ≠ value c w
  nodup : cs.Nodup

/-- The part at a place is mended. -/
abbrev PartMended (place : Place) : Json → Json → List Correction → Prop :=
  Mended (PartsAgree · place) (fun c => Json.get? c.slip.key) (·.place = place)

/-- The step at a place is mended. -/
abbrev StepMended (i : Nat) : Json → Json → List Correction → Prop :=
  Mended (StepsAgree · i) Correction.valueIn? fun c => c.place.list = "steps" ∧ c.place.index = i

/-- The plan is mended. -/
abbrev PlanMended : Json → Json → List Correction → Prop :=
  Mended PlansAgree Correction.value? fun _ => True

theorem MendedBy.mono {cs ds : List Correction} (h : cs ⊆ ds) (c : Correction) (v w : Json)
    (hc : MendedBy cs c v w) : MendedBy ds c v w :=
  hc.imp_left (h ·)

/-- What is mended in two lists of corrections one after the other, if none is in both. -/
theorem MendedBy.joins {cs ds : List Correction} (hdisj : ∀ c ∈ cs, c ∉ ds) :
    Joins (MendedBy cs) (MendedBy ds) (MendedBy (cs ++ ds)) where
  left := MendedBy.mono (List.subset_append_left cs ds)
  right := MendedBy.mono (List.subset_append_right cs ds)
  trans c _ _ _ hcs hds := absurd hds.1 (hdisj c hcs.1)

section Stages

variable {A : (Correction → Json → Json → Prop) → Json → Json → Prop}
  {value : Correction → Json → Option Json} {IsOf : Correction → Prop} {u v w : Json}
  {cs ds : List Correction} {c : Correction}

theorem Mended.imp {B : (Correction → Json → Json → Prop) → Json → Json → Prop}
    {value' : Correction → Json → Option Json} {IsOf' : Correction → Prop}
    (hA : ∀ {R}, A R v w → B R v w) (hof : ∀ c, IsOf c → IsOf' c)
    (hvalue : ∀ c v, IsOf c → value' c v = value c v) (h : Mended A value IsOf v w cs) :
    Mended B value' IsOf' v w cs where
  agree := hA h.agree
  isOf c hc := hof c (h.isOf c hc)
  differ c hc := by
    rw [hvalue c v (h.isOf c hc), hvalue c w (h.isOf c hc)]
    exact h.differ c hc
  nodup := h.nodup

/-- Where there is no correction, there is no difference. -/
theorem Mended.value_eq (h : Mended A value IsOf v w cs)
    (hvalue : ∀ {R}, A R v w → OptionsAgree (R c) (value c v) (value c w)) (hc : c ∉ cs) :
    value c v = value c w := by
  rcases hvalue h.agree with heq | ⟨_, _, -, -, hm, -⟩
  · exact heq
  · exact absurd hm hc

/-- What is repaired in two stages. -/
theorem Mended.trans (hA : ∀ {R S T u v w}, Joins R S T → A R u v → A S v w → A T u w)
    (hvalue : ∀ {R c v w}, IsOf c → A R v w → OptionsAgree (R c) (value c v) (value c w))
    (h : Mended A value IsOf u v cs) (h' : Mended A value IsOf v w ds)
    (hdisj : ∀ c ∈ cs, c ∉ ds) : Mended A value IsOf u w (cs ++ ds) where
  agree := hA (MendedBy.joins hdisj) h.agree h'.agree
  isOf := List.forall_mem_append.mpr ⟨h.isOf, h'.isOf⟩
  differ := by
    -- what the corrections of one stage name has one value before and after the other
    refine List.forall_mem_append.mpr ⟨fun c hc => ?_, fun c hc => ?_⟩
    · rw [← h'.value_eq (hvalue (h.isOf c hc)) (hdisj c hc)]
      exact h.differ c hc
    · rw [h.value_eq (hvalue (h'.isOf c hc)) fun hcs => hdisj c hcs hc]
      exact h'.differ c hc
  nodup := List.nodup_append.mpr ⟨h.nodup, h'.nodup, fun c hc _ hd he => hdisj c hc (he ▸ hd)⟩

end Stages

/-- Each field that is set is one correction more. -/
theorem Repaired.corrections_set_some (r : Repaired) (place : Place) (slip : Slip) (key : String)
    (v : Json) :
    (r.set slip key (some v)).corrections place = r.corrections place ++ [⟨place, slip⟩] := by
  simp [Repaired.corrections, Repaired.set]

theorem Repaired.not_mem_slips_mend {r : Repaired} {s slip : Slip} (hs : s ∉ r.slips)
    (hne : s ≠ slip) : s ∉ (r.mend slip).slips := by
  unfold Repaired.mend
  cases (field? slip.key r.fields).bind slip.repair? with
  | none => exact hs
  | some v => simp [Repaired.set, hs, hne]

section Parts

variable {place : Place} {slip : Slip} {fields : Fields} {v w : Json}

/-- What is left as it is has no corrections. -/
theorem partMended_self (place : Place) (v : Json) : PartMended place v v [] :=
  ⟨ObjectsAgree.refl v, by simp, by simp, .nil⟩

/-- In fields in which nothing is repaired yet, nothing owes anything. -/
theorem partMended_none (place : Place) (fields : Fields) : PartMended place (.obj fields)
    (.obj (Repaired.none fields).fields) ((Repaired.none fields).corrections place) :=
  partMended_self place (.obj fields)

/-- One slip is repaired in a part. -/
theorem partMended_setField (hplace : slip ∈ place.slips) (hv : field? slip.key fields = some v)
    (hmends : slip.Mends v w) (hne : v ≠ w) :
    PartMended place (.obj fields) (.obj (setField slip.key w fields)) [⟨place, slip⟩] where
  agree := ObjectsAgree.setField hv ⟨slip, hplace, rfl, by simp, hmends⟩
  isOf := by simp
  differ := by
    simp only [List.mem_singleton, forall_eq]
    show field? slip.key fields ≠ field? slip.key (setField slip.key w fields)
    rw [field?_setField_self, hv]
    exact fun he => hne (Option.some.inj he)
  nodup := by simp

/-- One more field of a part is repaired. -/
theorem partMended_mend {r : Repaired} (hplace : slip ∈ place.slips)
    (h : PartMended place (.obj fields) (.obj r.fields) (r.corrections place))
    (hnew : slip ∉ r.slips) : PartMended place (.obj fields) (.obj (r.mend slip).fields)
      ((r.mend slip).corrections place) := by
  unfold Repaired.mend
  cases hw : (field? slip.key r.fields).bind slip.repair? with
  | none => exact h
  | some w =>
    obtain ⟨v, hv, hw⟩ := Option.bind_eq_some_iff.mp hw
    obtain ⟨hmends, hne⟩ := mends_of_repair? hw
    rw [Repaired.corrections_set_some]
    refine h.trans PartsAgree.trans (fun {_ c _ _} hc hagree => ?_)
      (partMended_setField hplace hv hmends hne) ?_
    · subst hc
      exact hagree.get?
    · intro c hc hlast
      rw [List.mem_singleton.mp hlast] at hc
      simp only [Repaired.corrections, List.mem_map, Correction.mk.injEq, true_and,
        exists_eq_right] at hc
      exact hnew hc

theorem not_mem_slips_none (slip : Slip) (fields : Fields) :
    slip ∉ (Repaired.none fields).slips := by
  simp [Repaired.none]

/-- A repaired argument differs at the fields of its corrections only. -/
theorem partMended_repairArg (i j : Nat) (fields : Fields) : PartMended (.arg i j) (.obj fields)
    (.obj (repairArg fields).fields) ((repairArg fields).corrections (.arg i j)) := by
  have hkind : PartMended (.arg i j) (.obj fields) (.obj (mendKind fields).fields)
      ((mendKind fields).corrections (.arg i j)) :=
    partMended_mend (by simp [Place.slips]) (partMended_none _ fields) (not_mem_slips_none _ _)
  have hnew : ∀ slip ≠ .kind, slip ∉ (mendKind fields).slips := fun slip hne =>
    Repaired.not_mem_slips_mend (not_mem_slips_none slip fields) hne
  by_cases href : field? "kind" (mendKind fields).fields = some (.str "ref")
  · rw [repairArg_of_ref href]
    refine partMended_mend (by simp [Place.slips]) (partMended_mend (by simp [Place.slips]) hkind ?_) ?_
    · exact hnew _ (by decide)
    · exact Repaired.not_mem_slips_mend (hnew _ (by decide)) (by decide)
  · rw [repairArg_of_ne_ref href]
    exact hkind

/-- Whatever stands in the place of an argument is mended as a part. -/
theorem partMended_repairArgAt (i j : Nat) (v : Json) :
    PartMended (.arg i j) v (repairArgAt (.arg i j) v).1 (repairArgAt (.arg i j) v).2 := by
  cases v with
  | obj fields => exact partMended_repairArg i j fields
  | _ => exact partMended_self _ _

/-- The repaired fields of a step differ where it has corrections only. -/
theorem partMended_repairHead (i : Nat) (fields : Fields) : PartMended (.step i) (.obj fields)
    (.obj (repairHead fields).fields) ((repairHead fields).corrections (.step i)) := by
  rw [repairHead_eq]
  refine partMended_mend (by simp [Place.slips]) (partMended_mend (by simp [Place.slips])
    (partMended_none _ fields) (not_mem_slips_none _ _)) ?_
  exact Repaired.not_mem_slips_mend (not_mem_slips_none _ _) (by decide)

/-- A repaired token differs where it has a correction only. -/
theorem partMended_repairToken (i : Nat) (v : Json) :
    PartMended (.token i) v (repairToken i v).1 (repairToken i v).2 := by
  cases v with
  | obj fields =>
    rw [repairToken_obj]
    exact partMended_mend (by simp [Place.slips]) (partMended_none _ fields) (not_mem_slips_none _ _)
  | _ => exact partMended_self _ _

end Parts

end MovePlan.Plan
