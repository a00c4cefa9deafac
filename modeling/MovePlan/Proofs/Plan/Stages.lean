import MovePlan.Proofs.Plan.Difference

/-!
# Repair as stages

The repair of a part is that of one field after the other, each by what its slip says (`Slip.repair?`).
That of a list is the repair of its items, each at its place; a step is repaired in its head and then in
its list of arguments, and a plan in its list of steps and then in that of its tokens.
-/

namespace MovePlan.Plan

open Json

/-! ## Fields -/

/-- The value that a field with a slip is given. -/
def Slip.repair? : Slip → Json → Option Json
  | returnIndex, v | decimals, v => (repairInteger? v).map Json.int
  | mode, v => (v.text?.bind repairMode?).map fun m => Json.str m.word
  | kind, v => (v.text?.bind repairKind?).map Json.str
  | function, v => (v.text?.bind fun s => repairFunction? s.toList).map fun s =>
      Json.str (String.ofList s)
  | typeArguments, v => if v.isNull then some (.arr []) else none

/-- Repairs the field that a slip is in, if it is there. -/
def Repaired.mend (r : Repaired) (slip : Slip) : Repaired :=
  r.set slip slip.key ((field? slip.key r.fields).bind slip.repair?)

variable {r : Repaired} {slip : Slip} {fields : Fields} {v w : Json}

/-- A field that is not there has nothing to repair, as null has not. -/
theorem mend_eq_set (h : slip.repair? .null = none) (r : Repaired) :
    r.mend slip = r.set slip slip.key (slip.repair? (valueOfField r.fields slip.key)) := by
  unfold Repaired.mend valueOfField
  cases field? slip.key r.fields with
  | none => rw [Option.getD_none, h]; rfl
  | some v => rfl

theorem mend_typeArguments (r : Repaired) : r.mend .typeArguments =
    r.set .typeArguments "typeArguments" (repairTypeArguments? r.fields) := by
  unfold Repaired.mend repairTypeArguments?
  show Repaired.set r .typeArguments "typeArguments" ((field? "typeArguments" r.fields).bind _) = _
  cases field? "typeArguments" r.fields with
  | none => rfl
  | some v => cases v <;> rfl

/-- A field that is repaired to a value, if it does not have it already. -/
theorem fields_mend (hw : field? slip.key r.fields = some w) (hv : (slip.repair? w).getD w = v) :
    (r.mend slip).fields = setField slip.key v r.fields := by
  rw [Repaired.mend, hw, Option.bind_some]
  cases h : slip.repair? w with
  | none =>
    rw [h, Option.getD_none] at hv
    rw [← hv, setField_of_field? hw]
    rfl
  | some x =>
    rw [h, Option.getD_some] at hv
    rw [hv]
    rfl

theorem mend_eq_self (h : ∀ v, field? slip.key r.fields = some v → slip.repair? v = none) :
    r.mend slip = r := by
  unfold Repaired.mend
  cases hf : field? slip.key r.fields with
  | none => rfl
  | some v => rw [Option.bind_some, h v hf]; rfl

/-! ## Arguments, heads of steps, tokens -/

/-- The first stage of an argument's repair: its kind. -/
def mendKind (fields : Fields) : Repaired := (Repaired.none fields).mend .kind

/-- The second stage, for references: the index, then the mode. -/
def mendRef (r : Repaired) : Repaired := (r.mend .returnIndex).mend .mode

theorem repairArg_eq (fields : Fields) : repairArg fields =
    match (valueOfField (mendKind fields).fields "kind").text? with
    | some "ref" => mendRef (mendKind fields)
    | _ => mendKind fields := by
  have hkind : mendKind fields = _ := mend_eq_set rfl _
  have hindex : ∀ r : Repaired, r.mend .returnIndex = _ := fun r => mend_eq_set rfl r
  have hmode : ∀ r : Repaired, r.mend .mode = _ := fun r => mend_eq_set rfl r
  simp only [mendRef, hindex, hmode]
  rw [hkind]
  rfl

/-- A reference is repaired in both stages. -/
theorem repairArg_of_ref (h : field? "kind" (mendKind fields).fields = some (.str "ref")) :
    repairArg fields = mendRef (mendKind fields) := by
  rw [repairArg_eq, valueOfField, h]
  rfl

/-- An argument that is no reference is repaired in its kind only. -/
theorem repairArg_of_ne_ref (h : field? "kind" (mendKind fields).fields ≠ some (.str "ref")) :
    repairArg fields = mendKind fields := by
  rw [repairArg_eq]
  split
  · next hkind => exact absurd (field?_of_getD (eq_str_of_text? hkind) nofun) h
  · rfl

theorem repairHead_eq (fields : Fields) :
    repairHead fields = ((Repaired.none fields).mend .function).mend .typeArguments := by
  rw [mend_typeArguments, mend_eq_set rfl]
  rfl

/-- The corrections at a place of what was repaired in its fields. -/
def Repaired.corrections (r : Repaired) (place : Place) : List Correction :=
  r.slips.map (⟨place, ·⟩)

theorem repairArgAt_obj (place : Place) (fields : Fields) : repairArgAt place (.obj fields) =
    (.obj (repairArg fields).fields, (repairArg fields).corrections place) := rfl

theorem repairToken_obj (i : Nat) (fields : Fields) : repairToken i (.obj fields) =
    (.obj ((Repaired.none fields).mend .decimals).fields,
      ((Repaired.none fields).mend .decimals).corrections (.token i)) := by
  rw [mend_eq_set rfl]
  rfl

/-! ## Lists -/

section Lists

variable {repair : Nat → Json → Json × List Correction} {xs ys : List Json} {c : Correction}
  {key : String}

theorem length_repairEach (i : Nat) : (repairEach repair i xs).1.length = xs.length := by
  induction xs generalizing i with
  | nil => rfl
  | cons x rest ih => simp [repairEach, ih]

theorem getElem?_repairEach (i k : Nat) :
    (repairEach repair i xs).1[k]? = xs[k]?.map fun x => (repair (i + k) x).1 := by
  induction xs generalizing i k with
  | nil => rfl
  | cons x rest ih =>
    cases k with
    | zero => rfl
    | succ k => simpa [repairEach, Nat.add_assoc, Nat.add_comm 1] using ih (i + 1) k

theorem mem_repairEach (i : Nat) : c ∈ (repairEach repair i xs).2 ↔
    ∃ k x, xs[k]? = some x ∧ c ∈ (repair (i + k) x).2 := by
  induction xs generalizing i with
  | nil => simp [repairEach]
  | cons x rest ih =>
    simp only [repairEach, List.mem_append, ih]
    constructor
    · rintro (h | ⟨k, y, hy, h⟩)
      · exact ⟨0, x, rfl, h⟩
      · exact ⟨k + 1, y, hy, by rwa [Nat.add_comm k, ← Nat.add_assoc]⟩
    · rintro ⟨k, y, hy, h⟩
      cases k with
      | zero => exact Or.inl (by cases hy; exact h)
      | succ k => exact Or.inr ⟨k, y, hy, by rwa [Nat.add_assoc, Nat.add_comm 1]⟩

/-- No correction comes twice if each tells the item that it is of. -/
theorem nodup_repairEach {index : Correction → Nat} (hnd : ∀ k x, (repair k x).2.Nodup)
    (hindex : ∀ k x, ∀ c ∈ (repair k x).2, index c = k) (i : Nat) :
    (repairEach repair i xs).2.Nodup := by
  induction xs generalizing i with
  | nil => exact .nil
  | cons x rest ih =>
    simp only [repairEach]
    refine List.nodup_append.mpr ⟨hnd i x, ih (i + 1), ?_⟩
    rintro c hc _ hlater rfl
    obtain ⟨k, y, -, hk⟩ := (mem_repairEach (i + 1)).mp hlater
    have := hindex _ _ c hc
    have := hindex _ _ c hk
    omega

/-- Items that are repaired to those of a list of the same length. -/
theorem repairEach_eq (hlen : xs.length = ys.length)
    (h : ∀ k x y, xs[k]? = some x → ys[k]? = some y → (repair k y).1 = x) :
    (repairEach repair 0 ys).1 = xs := by
  refine List.ext_getElem? fun k => ?_
  rw [getElem?_repairEach, Nat.zero_add]
  rcases Nat.lt_or_ge k xs.length with hk | hk
  · have hx : xs[k]? = some xs[k] := List.getElem?_eq_getElem hk
    rw [hlen] at hk
    have hy : ys[k]? = some ys[k] := List.getElem?_eq_getElem hk
    rw [hy, hx, Option.map_some, h k _ _ hx hy]
  · rw [List.getElem?_eq_none hk, List.getElem?_eq_none (hlen ▸ hk), Option.map_none]

/-- Nothing is repaired in a list of items in which nothing is. -/
theorem repairEach_of_forall (h : ∀ k, ∀ x ∈ xs, repair k x = (x, [])) (i : Nat) :
    repairEach repair i xs = (xs, []) := by
  induction xs generalizing i with
  | nil => rfl
  | cons x rest ih =>
    rw [repairEach, h i x List.mem_cons_self, ih fun k y hy => h k y (List.mem_cons_of_mem x hy)]
    rfl

theorem repairList_of_arr (h : valueOfField fields key = .arr xs) : repairList key repair fields =
    (setField key (.arr (repairEach repair 0 xs).1) fields, (repairEach repair 0 xs).2) := by
  rw [repairList, h]

theorem repairList_cases (key : String) (fields : Fields) : repairList key repair fields = (fields, []) ∨
    ∃ xs, field? key fields = some (.arr xs) ∧ repairList key repair fields =
      (setField key (.arr (repairEach repair 0 xs).1) fields, (repairEach repair 0 xs).2) := by
  cases h : valueOfField fields key with
  | arr xs => exact Or.inr ⟨xs, field?_of_getD h nofun, repairList_of_arr h⟩
  | _ => exact Or.inl (by rw [repairList, h])

theorem repairList_of_forall
    (h : ∀ xs, valueOfField fields key = .arr xs → ∀ k, ∀ x ∈ xs, repair k x = (x, [])) :
    repairList key repair fields = (fields, []) := by
  rcases repairList_cases key fields with he | ⟨xs, hxs, he⟩
  · exact he
  · have hvalue : valueOfField fields key = .arr xs := by rw [valueOfField, hxs]; rfl
    rw [he, repairEach_of_forall (h xs hvalue), setField_of_field? hxs]

end Lists

/-! ## Steps -/

/-- The repair of a step's arguments. -/
def repairArgs (i : Nat) (fields : Fields) : Fields × List Correction :=
  repairList "args" (fun j => repairArgAt (.arg i j)) fields

/-- A step is repaired in two stages, its head and its arguments. -/
theorem repairStep_obj (i : Nat) (fields : Fields) : repairStep i (.obj fields) =
    (.obj (repairArgs i (repairHead fields).fields).1, (repairHead fields).corrections (.step i) ++
      (repairArgs i (repairHead fields).fields).2) := by
  simp only [repairStep, repairArgs, repairList]
  split
  · rfl
  · simp [Repaired.corrections]

/-! ## Plans -/

/-- Nothing is repaired in a plan if nothing is in its two lists. -/
theorem repair_of_repairList {fields : Fields}
    (hsteps : repairList "steps" repairStep fields = (fields, []))
    (htokens : repairList "tokens" repairToken fields = (fields, [])) :
    repair (.obj fields) = (.obj fields, []) := by
  rw [repair, hsteps]
  simp only [htokens, List.append_nil]

end MovePlan.Plan
