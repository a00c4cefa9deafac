import MovePlan.Proofs.Json.WellFormed
import MovePlan.Proofs.Graph.Literal
import MovePlan.Proofs.Plan.Grammar
import MovePlan.Proofs.Plan.Stages

/-!
# Plans that a text says

A plan that a text says is still one after its repair (`isReadable_repair`), and the integers that its
literals stand for have texts (`hasText_of_literalReads`): a large one is spelled by digits that are not
too many, and a floating-point number is too small to be too long.
-/

namespace MovePlan

open Numeric Text

/-! ## Numbers -/

/-- An integer that is a floating-point number has a text. -/
theorem Numeric.Binary64.hasText_of_value? {x : Binary64} {n : Int} (hx : x.IsProper)
    (h : x.value? = some (n : ℚ)) : hasText n = true := by
  cases x with
  | nan | infinity => cases h
  | finite negative m e =>
    obtain ⟨hm, -, he, -⟩ := hx
    have hvalue : (if negative then -1 else 1) * ((m : ℚ) * 2 ^ e) = n := Option.some.inj h
    have hmagnitude : (n.natAbs : ℚ) = m * 2 ^ e := by
      have hpos : (0 : ℚ) ≤ m * 2 ^ e := by positivity
      rw [Nat.cast_natAbs, Int.cast_abs, ← hvalue, abs_mul, abs_of_nonneg hpos]
      cases negative <;> simp
    -- a number of the format lies far below the limit
    have hbound : (n.natAbs : ℚ) < 10 ^ digitLimit := by
      calc (n.natAbs : ℚ) = m * 2 ^ e := hmagnitude
        _ ≤ 2 ^ 53 * 2 ^ greatestExponent := by
          gcongr
          · exact_mod_cast hm.le
          · norm_num
        _ = 2 ^ 1024 := by rw [greatestExponent, zpow_ofNat, ← pow_add]
        _ ≤ 2 ^ digitLimit := pow_le_pow_right₀ (by norm_num) (by decide)
        _ < 10 ^ digitLimit := pow_lt_pow_left₀ (by norm_num) (by norm_num) (by decide)
    rw [← tenTo_cast, Nat.cast_lt] at hbound
    exact hasText_iff.2 hbound

namespace Plan

open Graph Json

/-! ## Repair -/

/-- What a slip is corrected to can be read back. -/
theorem isReadable_repair? {slip : Slip} {v w : Json} (h : slip.repair? v = some w) :
    IsReadable w := by
  cases slip with
  | returnIndex | decimals =>
    obtain ⟨n, hn, rfl⟩ := Option.map_eq_some_iff.mp h
    obtain ⟨s, -, hs⟩ := Option.bind_eq_some_iff.mp hn
    exact isReadable_int_iff.mpr (hasText_of_readInt? hs)
  | mode | kind | function =>
    obtain ⟨_, -, rfl⟩ := Option.map_eq_some_iff.mp h
    exact isReadable_str _
  | typeArguments =>
    obtain ⟨-, hw⟩ := Option.ite_none_right_eq_some.mp h
    obtain rfl := Option.some.inj hw
    exact isReadable_arr_iff.mpr (List.forall_mem_nil _)

/-- One correction in a record leaves a record that is read back. -/
theorem isReadable_mend {r : Repaired} (h : IsReadable (.obj r.fields)) (slip : Slip) :
    IsReadable (.obj (r.mend slip).fields) := by
  unfold Repaired.mend Repaired.set
  split
  · exact h
  · next v hv =>
    obtain ⟨w, -, hw⟩ := Option.bind_eq_some_iff.mp hv
    exact isReadable_setField h slip.key (isReadable_repair? hw)

/-- A list is repaired member by member. -/
theorem isReadable_repairEach {repair : Nat → Json → Json × List Correction} {xs : List Json}
    (hrepair : ∀ i x, IsReadable x → IsReadable (repair i x).1) (h : ∀ x ∈ xs, IsReadable x)
    (i : Nat) : ∀ x ∈ (repairEach repair i xs).1, IsReadable x := by
  induction xs generalizing i with
  | nil => exact h
  | cons x rest ih =>
    obtain ⟨hx, hrest⟩ := List.forall_mem_cons.mp h
    exact List.forall_mem_cons.mpr ⟨hrepair i x hx, ih hrest (i + 1)⟩

/-- The list of a record is repaired in its place. -/
theorem isReadable_repairList {repair : Nat → Json → Json × List Correction} {key : String}
    {fields : Fields} (hrepair : ∀ i x, IsReadable x → IsReadable (repair i x).1)
    (h : IsReadable (.obj fields)) : IsReadable (.obj (repairList key repair fields).1) := by
  have hcases : repairList key repair fields = (fields, []) ∨
      ∃ xs, field? key fields = some (.arr xs) ∧ repairList key repair fields =
        (setField key (.arr (repairEach repair 0 xs).1) fields, (repairEach repair 0 xs).2) :=
    repairList_cases key fields
  rcases hcases with he | ⟨xs, hxs, he⟩
  · rw [he]
    exact h
  · rw [he]
    have hitems := isReadable_arr_iff.mp (h.of_field? hxs)
    exact isReadable_setField h key (isReadable_arr_iff.mpr (isReadable_repairEach hrepair hitems 0))

theorem isReadable_repairArgAt (place : Place) (v : Json) (h : IsReadable v) :
    IsReadable (repairArgAt place v).1 := by
  cases v with
  | obj fields =>
    have hkind : IsReadable (.obj (mendKind fields).fields) := isReadable_mend h .kind
    rw [repairArgAt_obj]
    by_cases href : field? "kind" (mendKind fields).fields = some (.str "ref")
    · rw [repairArg_of_ref href]
      exact isReadable_mend (isReadable_mend hkind .returnIndex) .mode
    · rw [repairArg_of_ne_ref href]
      exact hkind
  | _ => exact h

theorem isReadable_repairStep (i : Nat) (v : Json) (h : IsReadable v) :
    IsReadable (repairStep i v).1 := by
  cases v with
  | obj fields =>
    have hhead : IsReadable (.obj (repairHead fields).fields) := by
      rw [repairHead_eq]
      exact isReadable_mend (isReadable_mend h .function) .typeArguments
    rw [repairStep_obj]
    exact isReadable_repairList (fun j => isReadable_repairArgAt (.arg i j)) hhead
  | _ => exact h

theorem isReadable_repairToken (i : Nat) (v : Json) (h : IsReadable v) :
    IsReadable (repairToken i v).1 := by
  cases v with
  | obj fields =>
    rw [repairToken_obj]
    exact isReadable_mend h .decimals
  | _ => exact h

/-- **A plan that a text says is still one after its repair.** -/
theorem isReadable_repair {p : Json} (h : IsReadable p) : IsReadable (repair p).1 := by
  cases p with
  | obj fields =>
    exact isReadable_repairList isReadable_repairToken
      (isReadable_repairList isReadable_repairStep h)
  | _ => exact h

/-! ## Literals -/

/-- **The integer that a literal stands for has a text.** -/
theorem hasText_of_literalReads {v : Json} {n : Int} (hv : IsReadable v)
    (h : LiteralReads v (.int n)) : hasText n = true := by
  cases h with
  | text h =>
    cases Literal.decodeLiteral_eq_iff.mp h with
    | integer hnumeral hlimit =>
      rw [(Literal.isNumeral_iff.mp hnumeral).2.2]
      exact hasText_valueOf hlimit
  | int => exact isReadable_int_iff.mp hv
  | float h => exact Binary64.hasText_of_value? (isReadable_float_iff.mp hv) h

end Plan

end MovePlan
