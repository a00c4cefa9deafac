import MovePlan.Proofs.Text.Numeral
import MovePlan.Simulation.Analysis

/-!
# Writes of stores

What a write of a store is, is told by its fields (`IsStoreWrite`), what a balance is by the text that
spells it (`Json.IsInteger`), both without regard to how they are read. A change is read as the write
of a store exactly if it is one and its balance is an integer, and refused exactly if it is one and its
balance is none.
-/

namespace MovePlan

open Text Move

/-! ## Integers that are written or spelled -/

theorem Json.text?_eq_some_iff {j : Json} {s : String} : j.text? = some s ↔ j = .str s := by
  cases j <;> simp [Json.text?]

theorem Json.fields?_eq_some_iff {j : Json} {fs : Json.Fields} :
    j.fields? = some fs ↔ j = .obj fs := by
  cases j <;> simp [Json.fields?]

/-- The integer that a value is or spells. -/
inductive Json.IsInteger : Json → Int → Prop where
  | int (n : Int) : IsInteger (.int n) n
  | str (s : String) (n : Int) (h : Spells s.toList n) : IsInteger (.str s) n

/-- A value that is not null is read exactly if it is or spells an integer. -/
theorem Json.amount_eq_ok_iff {name : String} {default n : Int} {j : Json} (h : j ≠ .null) :
    j.amount name default = .ok n ↔ j.IsInteger n := by
  cases j with
  | null => exact absurd rfl h
  | int m =>
    constructor
    · intro hread
      obtain rfl := Except.ok.inj hread
      exact .int m
    · rintro ⟨⟩
      rfl
  | str s =>
    rw [Json.amount]
    constructor
    · intro hread
      split at hread
      · next m hm =>
        obtain rfl := Except.ok.inj hread
        exact .str s m (readInt?_trim_iff.1 hm)
      · cases hread
    · rintro ⟨⟩
      next hspells => rw [readInt?_trim_iff.2 hspells]
  | bool | float | arr | obj =>
    constructor
    · rintro ⟨⟩
    · rintro ⟨⟩

/-- The digits of an integer are none if there are too many of them. -/
theorem Json.not_isInteger_of_long {n : Int} (h : Numeric.hasText n = false) (m : Int) :
    ¬(Json.str (String.ofList (Numeric.intText n))).IsInteger m := by
  intro hinteger
  cases hinteger with
  | str _ _ hspells =>
    have hread := readInt?_trim_iff.2 hspells
    rw [String.toList_ofList, trim, trimBy_eq_self fun _ => isBlank_of_mem_intText,
      readInt?_intText_of_long h] at hread
    cases hread

theorem Json.amount_eq_error {name : String} {default : Int} {j : Json} {e : Error}
    (h : j.amount name default = .error e) :
    e = .notInteger name j ∨ e = .booleanInteger name := by
  cases j with
  | null | int => cases h
  | str s =>
    rw [Json.amount] at h
    split at h
    · cases h
    · exact Or.inl (Except.error.inj h).symm
  | bool => exact Or.inr (Except.error.inj h).symm
  | float | arr | obj => exact Or.inl (Except.error.inj h).symm

/-! ## Writes of stores -/

namespace Simulation

/-- A change that is the write of a store, with the asset and the balance that it shows. -/
structure IsStoreWrite (change : Json.Fields) (metadata : String) (balance : Json) : Prop where
  kind : valueIn change "type" = .str "write_resource"
  type : ∃ data type address, valueIn change "data" = .obj data ∧ valueIn data "type" = .str type ∧
    TypeName.splitAddress? type = some (address, storePath) ∧
    Address.same address frameworkAddress = true
  store : ∃ data store, valueIn change "data" = .obj data ∧ valueIn data "data" = .obj store ∧
    valueIn store "balance" = balance ∧ balance ≠ .null ∧
    (valueIn store "metadata").get "inner" = .str metadata

variable {change : Json.Fields} {metadata : String} {balance : Json}

theorem isStoreType_iff {type : String} : isStoreType type = true ↔
    ∃ address, TypeName.splitAddress? type = some (address, storePath) ∧
      Address.same address frameworkAddress = true := by
  rw [isStoreType]
  cases TypeName.splitAddress? type with
  | none => simp
  | some parts =>
    obtain ⟨address, path⟩ := parts
    simp [and_comm]

theorem resourceType?_eq_some_iff {type : String} : resourceType? change = some type ↔
    ∃ data, valueIn change "data" = .obj data ∧ valueIn data "type" = .str type := by
  simp [resourceType?, dataOf, Option.bind_eq_some_iff, Json.text?_eq_some_iff, Json.fields?_eq_some_iff]

theorem resource?_eq_some_iff {store : Json.Fields} : resource? change = some store ↔
    ∃ data, valueIn change "data" = .obj data ∧ valueIn data "data" = .obj store := by
  simp [resource?, dataOf, Option.bind_eq_some_iff, Json.fields?_eq_some_iff]

/-- The type of a change is that of a store exactly if it is split into the framework's address and the
path of stores. -/
theorem any_isStoreType_iff : (resourceType? change).any isStoreType = true ↔ ∃ data type address,
    valueIn change "data" = .obj data ∧ valueIn data "type" = .str type ∧
    TypeName.splitAddress? type = some (address, storePath) ∧
    Address.same address frameworkAddress = true := by
  simp only [Option.any_eq_true, resourceType?_eq_some_iff, isStoreType_iff]
  constructor
  · rintro ⟨type, ⟨data, hdata, htype⟩, address, hsplit, hsame⟩
    exact ⟨data, type, address, hdata, htype, hsplit, hsame⟩
  · rintro ⟨data, type, address, hdata, htype, hsplit, hsame⟩
    exact ⟨type, ⟨data, hdata, htype⟩, address, hsplit, hsame⟩

/-- The fields of a store are found exactly in the write of one. -/
theorem storeFields?_eq_some_iff :
    storeFields? change = some (metadata, balance) ↔ IsStoreWrite change metadata balance := by
  rw [storeFields?]
  constructor
  · intro h
    split at h
    · cases h
    next hkind =>
      split at h
      · cases h
      next htype =>
        split at h
        · cases h
        next store hstore =>
          dsimp only at h
          split at h
          · cases h
          next hnull =>
            split at h
            next inner hinner =>
              cases h
              obtain ⟨data, hdata, hstore⟩ := resource?_eq_some_iff.1 hstore
              refine ⟨Json.text?_eq_some_iff.1 (not_not.1 hkind), any_isStoreType_iff.1 (by simpa using htype),
                data, store, hdata, hstore, rfl, ?_, Json.text?_eq_some_iff.1 hinner⟩
              intro he
              exact hnull (by rw [he]; rfl)
            · cases h
  · rintro ⟨hkind, htype, data, store, hdata, hstore, hbalance, hnull, hinner⟩
    have hgiven : balance.isNull = false := by
      cases balance with
      | null => exact absurd rfl hnull
      | _ => rfl
    have hkind : kindOf change = some "write_resource" := Json.text?_eq_some_iff.2 hkind
    have hfields : resource? change = some store := resource?_eq_some_iff.2 ⟨data, hdata, hstore⟩
    simp [hkind, any_isStoreType_iff.2 htype, hfields, hgiven, Json.text?_eq_some_iff.2 hinner, hbalance]

theorem IsStoreWrite.ne_null (h : IsStoreWrite change metadata balance) : balance ≠ .null := by
  obtain ⟨data, store, -, -, -, hnull, -⟩ := h.store
  exact hnull

/-- A change that is not the write of a store is passed over. -/
theorem storeWrite?_of_not (h : ∀ metadata balance, ¬IsStoreWrite change metadata balance) :
    storeWrite? change = .ok none := by
  rw [storeWrite?]
  cases hfields : storeFields? change with
  | none => rfl
  | some fields => exact absurd (storeFields?_eq_some_iff.1 hfields) (h fields.1 fields.2)

/-- The write of a store is read if its balance is. -/
theorem storeWrite?_of_write (h : IsStoreWrite change metadata balance) : storeWrite? change =
    (Json.amount "store balance" 0 balance).map fun n => some ⟨metadata, n⟩ := by
  simp only [storeWrite?, storeFields?_eq_some_iff.2 h]
  cases Json.amount "store balance" 0 balance <;> rfl

/-- A change is read as the write of a store exactly if it is one and its balance is an integer. -/
theorem storeWrite?_eq_some_iff {write : StoreWrite} : storeWrite? change = .ok (some write) ↔
    ∃ balance, IsStoreWrite change write.metadata balance ∧ balance.IsInteger write.balance := by
  constructor
  · intro h
    by_cases hwrite : ∃ metadata balance, IsStoreWrite change metadata balance
    · obtain ⟨metadata, balance, hwrite⟩ := hwrite
      rw [storeWrite?_of_write hwrite] at h
      cases hread : Json.amount "store balance" 0 balance with
      | ok n =>
        rw [hread] at h
        cases h
        exact ⟨balance, hwrite, (Json.amount_eq_ok_iff hwrite.ne_null).1 hread⟩
      | error e =>
        rw [hread] at h
        cases h
    · rw [storeWrite?_of_not fun metadata balance h => hwrite ⟨metadata, balance, h⟩] at h
      cases h
  · rintro ⟨balance, hwrite, hn⟩
    rw [storeWrite?_of_write hwrite, (Json.amount_eq_ok_iff hwrite.ne_null).2 hn]
    rfl

/-- The balance of a write that is read is an integer. -/
theorem IsStoreWrite.exists_isInteger (h : IsStoreWrite change metadata balance)
    {write : Option StoreWrite} (hread : storeWrite? change = .ok write) : ∃ n, balance.IsInteger n := by
  rw [storeWrite?_of_write h] at hread
  cases hn : Json.amount "store balance" 0 balance with
  | ok n => exact ⟨n, (Json.amount_eq_ok_iff h.ne_null).1 hn⟩
  | error e =>
    rw [hn] at hread
    cases hread

/-- A change is refused exactly if it is the write of a store whose balance is no integer. -/
theorem storeWrite?_eq_error_iff : (∃ e, storeWrite? change = .error e) ↔
    ∃ metadata balance, IsStoreWrite change metadata balance ∧ ∀ n, ¬balance.IsInteger n := by
  constructor
  · rintro ⟨e, he⟩
    by_cases hwrite : ∃ metadata balance, IsStoreWrite change metadata balance
    · obtain ⟨metadata, balance, hwrite⟩ := hwrite
      refine ⟨metadata, balance, hwrite, fun n hn => ?_⟩
      rw [storeWrite?_of_write hwrite, (Json.amount_eq_ok_iff hwrite.ne_null).2 hn] at he
      cases he
    · rw [storeWrite?_of_not fun metadata balance h => hwrite ⟨metadata, balance, h⟩] at he
      cases he
  · rintro ⟨metadata, balance, hwrite, hnone⟩
    rw [storeWrite?_of_write hwrite]
    cases hread : Json.amount "store balance" 0 balance with
    | ok n => exact absurd ((Json.amount_eq_ok_iff hwrite.ne_null).1 hread) (hnone n)
    | error e => exact ⟨e, rfl⟩

end Simulation

end MovePlan
