import Mathlib.Algebra.Ring.Int.Defs
import MovePlan.Proofs.Flow.Run
import MovePlan.Proofs.Simulation.Spelling
import MovePlan.Proofs.Simulation.StoreWrites

/-!
# A position by its first change

A position is told by the exact type of its resource (`Position.IsTypeOf`): the protocol's address, however it
is spelled, and the path of the resource, with or without arguments in angle brackets. What an outcome shows
of it is what the first change of that type leaves (`extractVault_shows`). A position that is deleted
has nothing; of one that is written the values of the collaterals and the principals of the liabilities are
summed, in whatever order they stand.

Where a table is no list there are no entries in it, and an amount that is missing counts as zero.
-/

namespace MovePlan

open Move Text Error

/-- The integer that an amount counts as: zero if it is missing. -/
inductive Json.Counts : Json → Int → Prop where
  | missing : Counts .null 0
  | given {j : Json} {n : Int} (h : j.IsInteger n) : Counts j n

theorem Json.amount_eq_ok_iff_counts {name : String} {j : Json} {n : Int} :
    j.amount name 0 = .ok n ↔ j.Counts n := by
  by_cases hj : j = .null
  · subst hj
    constructor
    · intro h
      obtain rfl := Except.ok.inj h
      exact .missing
    · rintro (_ | ⟨⟨⟩⟩)
      rfl
  · rw [Json.amount_eq_ok_iff hj]
    constructor
    · exact .given
    · rintro (_ | h)
      · exact absurd rfl hj
      · exact h

namespace Simulation

variable {p : Position} {change change' resource : Json.Fields} {v : Vault} {n : Int}

/-! ## Types of positions -/

/-- Whether a type is that of a position: at the protocol's address, and of the path of the resource or that
with arguments after it. -/
def Position.IsTypeOf (p : Position) (type : String) : Prop :=
  ∃ address path, TypeName.splitAddress? type = some (address, path) ∧
    Address.same address p.protocol = true ∧
    (path = p.resource ∨ ∃ arguments, path = p.resource ++ "<" ++ arguments)

theorem beforeGenerics_eq_iff {s t : List Char} (ht : '<' ∉ t) :
    beforeGenerics s = t ↔ s = t ∨ ∃ rest, s = t ++ '<' :: rest := by
  have hkept : ∀ c ∈ t, (c != '<') = true := by
    intro c hc
    rw [bne_iff_ne]
    rintro rfl
    exact ht hc
  rw [beforeGenerics]
  constructor
  · rintro rfl
    cases hrest : s.dropWhile (· != '<') with
    | nil => exact Or.inl (List.takeWhile_eq_self_iff.2 (List.dropWhile_eq_nil_iff.1 hrest)).symm
    | cons c rest =>
      have hc : c = '<' := by
        have hhead := List.head_dropWhile_not (p := (· != '<')) (l := s) (by simp [hrest])
        simpa [hrest] using hhead
      have hs : s.takeWhile (· != '<') ++ s.dropWhile (· != '<') = s := List.takeWhile_append_dropWhile
      rw [hrest, hc] at hs
      exact Or.inr ⟨rest, hs.symm⟩
  · rintro (rfl | ⟨rest, rfl⟩)
    · exact List.takeWhile_eq_self_iff.2 hkept
    · rw [List.takeWhile_append_of_pos hkept]
      simp

/-- **A type is taken for that of a position exactly if it is.** -/
theorem matches_iff (hp : '<' ∉ p.resource.toList) {type : String} :
    p.matches type = true ↔ p.IsTypeOf type := by
  have hpath : ∀ path : String, String.ofList (beforeGenerics path.toList) = p.resource ↔
      path = p.resource ∨ ∃ arguments, path = p.resource ++ "<" ++ arguments := by
    intro path
    rw [← String.toList_inj, String.toList_ofList, beforeGenerics_eq_iff hp, String.toList_inj]
    refine or_congr_right ⟨?_, ?_⟩
    · rintro ⟨rest, hrest⟩
      exact ⟨String.ofList rest, String.toList_inj.1 (by simp [hrest])⟩
    · rintro ⟨arguments, rfl⟩
      exact ⟨arguments.toList, by simp⟩
  rw [Position.matches, Position.IsTypeOf]
  cases TypeName.splitAddress? type with
  | none => simp
  | some parts =>
    obtain ⟨address, path⟩ := parts
    simp [hpath]

/-! ## Changes of positions -/

/-- Whether a change deletes a position. -/
def Deletes (p : Position) (change : Json.Fields) : Prop :=
  valueIn change "type" = .str "delete_resource" ∧
    ∃ type, valueIn change "resource" = .str type ∧ p.IsTypeOf type

/-- Whether a change writes a position, with the resource that it leaves. -/
def WritesPosition (p : Position) (change resource : Json.Fields) : Prop :=
  valueIn change "type" = .str "write_resource" ∧
    ∃ data type, valueIn change "data" = .obj data ∧ valueIn data "type" = .str type ∧ p.IsTypeOf type ∧
      valueIn data "data" = .obj resource

/-- Whether a change is one of a position. -/
def IsChangeOf (p : Position) (change : Json.Fields) : Prop :=
  Deletes p change ∨ ∃ resource, WritesPosition p change resource

theorem vaultChange?_of_deletes (hp : '<' ∉ p.resource.toList) (h : Deletes p change) :
    vaultChange? (some p) change = .ok (some ⟨addressOf change, 0, 0, false⟩) := by
  obtain ⟨hkind, type, htype, hmatch⟩ := h
  have hkind : kindOf change = some "delete_resource" := Json.text?_eq_some_iff.2 hkind
  simp only [vaultChange?, hkind, Json.text?_eq_some_iff.2 htype, isPositionType, (matches_iff hp).2 hmatch,
    if_true]

theorem vaultChange?_of_writes (hp : '<' ∉ p.resource.toList) (h : WritesPosition p change resource) :
    vaultChange? (some p) change =
      (vaultTotals resource).map fun t => some ⟨addressOf change, t.1, t.2, true⟩ := by
  obtain ⟨hkind, data, type, hdata, htype, hmatch, hresource⟩ := h
  have hkind : kindOf change = some "write_resource" := Json.text?_eq_some_iff.2 hkind
  have htype : resourceType? change = some type := resourceType?_eq_some_iff.2 ⟨data, hdata, htype⟩
  have hresource : resource? change = some resource := resource?_eq_some_iff.2 ⟨data, hdata, hresource⟩
  simp only [vaultChange?, hkind, htype, Option.any_some, isPositionType, (matches_iff hp).2 hmatch, if_true,
    hresource]
  cases vaultTotals resource <;> rfl

theorem vaultChange?_of_not (hp : '<' ∉ p.resource.toList) (h : ¬IsChangeOf p change) :
    vaultChange? (some p) change = .ok none := by
  rw [IsChangeOf, not_or] at h
  obtain ⟨hdelete, hwrite⟩ := h
  rw [vaultChange?]
  split
  · next hkind =>
    split
    · next type htype =>
      rw [if_neg]
      intro hmatch
      exact hdelete ⟨Json.text?_eq_some_iff.1 hkind, type, Json.text?_eq_some_iff.1 htype,
        (matches_iff hp).1 hmatch⟩
    · rfl
  · next hkind =>
    split
    · next hany =>
      split
      · rfl
      · next resource hresource =>
        obtain ⟨type, htype, hmatch⟩ := (Option.any_eq_true _ _).1 hany
        obtain ⟨data, hdata, hresource⟩ := resource?_eq_some_iff.1 hresource
        obtain ⟨data', hdata', htype⟩ := resourceType?_eq_some_iff.1 htype
        obtain rfl := Json.obj.inj (hdata.symm.trans hdata')
        exact absurd ⟨resource, Json.text?_eq_some_iff.1 hkind, data, type, hdata, htype,
          (matches_iff hp).1 hmatch, hresource⟩ hwrite
    · rfl
  · rfl

/-! ## Sums over tables -/

/-- Whether a number is the sum of what amounts count as. -/
def SumsTo (amounts : List Json) (n : Int) : Prop := ∃ ns, List.Forall₂ Json.Counts amounts ns ∧ n = ns.sum

/-- The entries of a table. -/
def entriesIn (table : Json) : List Json := ((table.get "data").items?).getD []

/-- The values of the collaterals of a position: of the entries that are objects. -/
def collateralsIn (resource : Json.Fields) : List Json :=
  ((entriesIn (valueIn resource "collaterals")).filter Json.isObject).map (Json.get "value")

/-- The principals of the liabilities of a position. -/
def principalsIn (resource : Json.Fields) : List Json :=
  (entriesIn (valueIn resource "liabilities")).map fun e => (e.get "value").get "principal"

variable {amount : Json → Except Error Int} {xs ys : List Json} {table : Json}

theorem sumsTo_nil_iff : SumsTo [] n ↔ n = 0 := by
  simp [SumsTo]

theorem sumsTo_cons_iff {j : Json} {amounts : List Json} :
    SumsTo (j :: amounts) n ↔ ∃ here later, j.Counts here ∧ SumsTo amounts later ∧ n = here + later := by
  constructor
  · rintro ⟨_, ⟨⟩, rfl⟩
    next here ns hhere hlater => exact ⟨here, ns.sum, hhere, ⟨ns, hlater, rfl⟩, List.sum_cons⟩
  · rintro ⟨here, later, hhere, ⟨ns, hns, rfl⟩, rfl⟩
    exact ⟨here :: ns, .cons hhere hns, List.sum_cons.symm⟩

theorem sumEntries_cons_eq_ok_iff {e : Json} : sumEntries amount (e :: xs) = .ok n ↔
    ∃ here later, amount e = .ok here ∧ sumEntries amount xs = .ok later ∧ n = here + later := by
  constructor
  · intro h
    obtain ⟨here, hhere, h⟩ := bind_eq_ok_iff.1 h
    obtain ⟨later, hlater, h⟩ := bind_eq_ok_iff.1 h
    exact ⟨here, later, hhere, hlater, (Except.ok.inj h).symm⟩
  · rintro ⟨here, later, hhere, hlater, rfl⟩
    exact bind_eq_ok_iff.2 ⟨here, hhere, bind_eq_ok_iff.2 ⟨later, hlater, rfl⟩⟩

/-- The sum over entries is that over the parts of those that have any. -/
theorem sumEntries_eq_ok_iff (name : String) (keep : Json → Bool) (part : Json → Json)
    (hamount : ∀ e, amount e = if keep e then Json.amount name 0 (part e) else .ok 0) :
    sumEntries amount xs = .ok n ↔ SumsTo ((xs.filter keep).map part) n := by
  induction xs generalizing n with
  | nil => rw [sumEntries, List.filter_nil, List.map_nil, sumsTo_nil_iff, Except.ok.injEq, eq_comm]
  | cons e rest ih =>
    rw [sumEntries_cons_eq_ok_iff, hamount]
    by_cases hkeep : keep e = true
    · simp only [if_pos hkeep, List.filter_cons_of_pos hkeep, List.map_cons, sumsTo_cons_iff,
        Json.amount_eq_ok_iff_counts, ih]
    · rw [if_neg hkeep, List.filter_cons_of_neg hkeep, ← ih]
      simp

/-- Amounts have one sum. -/
theorem SumsTo.eq {amounts : List Json} {m : Int} (hm : SumsTo amounts m) (hn : SumsTo amounts n) :
    m = n := by
  have hread : ∀ {k}, SumsTo amounts k → sumEntries (Json.amount "" 0) amounts = .ok k := by
    intro k hk
    refine (sumEntries_eq_ok_iff "" (fun _ => true) id fun _ => rfl).2 ?_
    simpa using hk
  exact Except.ok.inj ((hread hm).symm.trans (hread hn))

/-- The members of what is no list are no objects. -/
theorem isObject_of_mem_members {data : Json} {members : List Json} (hdata : data.items? = none)
    (h : data.membersIfGiven = .ok members) : ∀ e ∈ members, e.isObject = false := by
  have hmembers : members = [] ∨ data.members? = some members := by
    rw [Json.membersIfGiven] at h
    split at h
    · exact Or.inl (Except.ok.inj h).symm
    · split at h
      · next hsome => exact Or.inr (Except.ok.inj h ▸ hsome)
      · cases h
  rcases hmembers with rfl | hmembers
  · exact List.forall_mem_nil _
  · cases data with
    | arr => cases hdata
    | str | obj =>
      obtain rfl := Option.some.inj hmembers
      intro e he
      obtain ⟨part, -, rfl⟩ := List.mem_map.1 he
      rfl
    | _ => cases hmembers

/-- Entries that are no objects count for nothing. -/
theorem sumEntries_eq_zero (hother : ∀ e, e.isObject = false → amount e = .ok 0)
    (hxs : ∀ e ∈ xs, e.isObject = false) : sumEntries amount xs = .ok 0 := by
  induction xs with
  | nil => rfl
  | cons e rest ih =>
    obtain ⟨he, hrest⟩ := List.forall_mem_cons.1 hxs
    exact sumEntries_cons_eq_ok_iff.2 ⟨0, 0, hother e he, ih hrest, rfl⟩

/-- The members of a table that is no list may be left out of its sum. -/
theorem sumTable_eq_ok (hother : ∀ e, e.isObject = false → amount e = .ok 0)
    (h : sumTable amount table = .ok n) : sumEntries amount (entriesIn table) = .ok n := by
  cases table with
  | obj fields =>
    have hentries : entriesIn (.obj fields) = ((valueIn fields "data").items?).getD [] := rfl
    obtain ⟨members, hmembers, h⟩ := bind_eq_ok_iff.1 h
    rw [entriesOf] at hmembers
    rw [hentries]
    generalize valueIn fields "data" = data at hmembers
    cases hitems : data.items? with
    | none =>
      rw [sumEntries_eq_zero hother (isObject_of_mem_members hitems hmembers)] at h
      exact h
    | some items =>
      obtain rfl : data = .arr items := by
        cases data with
        | arr xs => rw [Option.some.inj hitems]
        | _ => cases hitems
      rw [Json.membersIfGiven_arr] at hmembers
      obtain rfl := Except.ok.inj hmembers
      exact h
  | _ => exact h

/-! ## What a change leaves -/

/-- Whether a position is what a change of it leaves. -/
inductive Describes (p : Position) (change : Json.Fields) : Vault → Prop where
  | deleted (h : Deletes p change) : Describes p change ⟨0, 0, false, p.market⟩
  | written {resource : Json.Fields} {collateral debt : Int} (h : WritesPosition p change resource)
      (hcollateral : SumsTo (collateralsIn resource) collateral)
      (hdebt : SumsTo (principalsIn resource) debt) : Describes p change ⟨collateral, debt, true, p.market⟩

theorem amount_eq_zero_of_isObject {e : Json} (he : e.isObject = false) :
    collateralOf e = .ok 0 ∧ principalOf e = .ok 0 := by
  cases e with
  | obj => cases he
  | _ => exact ⟨rfl, rfl⟩

theorem totals_of_vaultTotals {totals : Int × Int} (h : vaultTotals resource = .ok totals) :
    SumsTo (collateralsIn resource) totals.1 ∧ SumsTo (principalsIn resource) totals.2 := by
  rw [vaultTotals_eq_bind] at h
  obtain ⟨c, hc, h⟩ := bind_eq_ok_iff.1 h
  obtain ⟨d, hd, h⟩ := bind_eq_ok_iff.1 h
  obtain rfl := Except.ok.inj h
  have hcollaterals := sumTable_eq_ok (fun _ he => (amount_eq_zero_of_isObject he).1) hc
  have hliabilities := sumTable_eq_ok (fun _ he => (amount_eq_zero_of_isObject he).2) hd
  have hcollateral := (sumEntries_eq_ok_iff _ Json.isObject _ fun _ => rfl).1 hcollaterals
  have hdebt := (sumEntries_eq_ok_iff "liability principal" (fun _ => true)
    (fun e => (e.get "value").get "principal") fun _ => rfl).1 hliabilities
  rw [List.filter_true] at hdebt
  exact ⟨hcollateral, hdebt⟩

variable {found : Option VaultChange}

/-- A change of a position is read as what it leaves. -/
theorem describes_of_vaultChange? (hp : '<' ∉ p.resource.toList) (hchange : IsChangeOf p change)
    (h : vaultChange? (some p) change = .ok found) :
    ∃ w, found = some w ∧ Describes p change ⟨w.collateral, w.debt, w.present, p.market⟩ := by
  rcases hchange with hdelete | ⟨resource, hwrite⟩
  · rw [vaultChange?_of_deletes hp hdelete] at h
    exact ⟨_, (Except.ok.inj h).symm, .deleted hdelete⟩
  · rw [vaultChange?_of_writes hp hwrite] at h
    cases htotals : vaultTotals resource with
    | error e =>
      rw [htotals] at h
      cases h
    | ok totals =>
      rw [htotals] at h
      obtain ⟨hcollateral, hdebt⟩ := totals_of_vaultTotals htotals
      exact ⟨_, (Except.ok.inj h).symm, .written hwrite hcollateral hdebt⟩

theorem Describes.isChangeOf (h : Describes p change v) : IsChangeOf p change := by
  cases h with
  | deleted hdelete => exact Or.inl hdelete
  | written hwrite => exact Or.inr ⟨_, hwrite⟩

/-- A change leaves one position. -/
theorem Describes.eq {w : Vault} (hv : Describes p change v) (hw : Describes p change w) : v = w := by
  have hkinds : ∀ {resource}, Deletes p change → ¬WritesPosition p change resource := by
    rintro resource ⟨hdelete, -⟩ ⟨hwrite, -⟩
    rw [hdelete] at hwrite
    exact absurd (Json.str.inj hwrite) (by decide)
  cases hv with
  | deleted hdelete =>
    cases hw with
    | deleted => rfl
    | written hwrite => exact absurd hwrite (hkinds hdelete)
  | written hwrite hcollateral hdebt =>
    cases hw with
    | deleted hdelete => exact absurd hwrite (hkinds hdelete)
    | written hwrite' hcollateral' hdebt' =>
      obtain ⟨-, data, -, hdata, -, -, hresource⟩ := hwrite
      obtain ⟨-, data', -, hdata', -, -, hresource'⟩ := hwrite'
      obtain rfl := Json.obj.inj (hdata.symm.trans hdata')
      obtain rfl := Json.obj.inj (hresource.symm.trans hresource')
      rw [hcollateral.eq hcollateral', hdebt.eq hdebt']

/-! ## The first change -/

variable {changes before : List Json.Fields} {o o' : Outcome} {result : Option Vault}

theorem firstVaultChange_append (hp : '<' ∉ p.resource.toList) (hbefore : ∀ c ∈ before, ¬IsChangeOf p c) :
    firstVaultChange (some p) (before ++ changes) = firstVaultChange (some p) changes := by
  induction before with
  | nil => rfl
  | cons change rest ih =>
    obtain ⟨hchange, hrest⟩ := List.forall_mem_cons.1 hbefore
    rw [List.cons_append, firstVaultChange, vaultChange?_of_not hp hchange]
    exact ih hrest

/-- Of changes of which the first of a position comes after others, that one is found. -/
theorem firstVaultChange_eq_ok (hp : '<' ∉ p.resource.toList) (hchange : IsChangeOf p change)
    (h : firstVaultChange (some p) (change :: changes) = .ok found) :
    ∃ w, found = some w ∧ Describes p change ⟨w.collateral, w.debt, w.present, p.market⟩ := by
  obtain ⟨seen, hseen, h⟩ := bind_eq_ok_iff.1 h
  obtain ⟨w, rfl, hdescribes⟩ := describes_of_vaultChange? hp hchange hseen
  exact ⟨w, (Except.ok.inj h).symm, hdescribes⟩

/-- Changes are without one of a position, or begin with others before the first of them. -/
theorem forall_not_or_exists_first (p : Position) (changes : List Json.Fields) :
    (∀ change ∈ changes, ¬IsChangeOf p change) ∨
      ∃ before change after, changes = before ++ change :: after ∧ (∀ c ∈ before, ¬IsChangeOf p c) ∧
        IsChangeOf p change := by
  induction changes with
  | nil => exact Or.inl (List.forall_mem_nil _)
  | cons change rest ih =>
    by_cases hchange : IsChangeOf p change
    · exact Or.inr ⟨[], change, rest, rfl, List.forall_mem_nil _, hchange⟩
    · rcases ih with hrest | ⟨before, first, after, rfl, hbefore, hfirst⟩
      · exact Or.inl (List.forall_mem_cons.2 ⟨hchange, hrest⟩)
      · exact Or.inr ⟨change :: before, first, after, rfl, List.forall_mem_cons.2 ⟨hchange, hbefore⟩, hfirst⟩

theorem extractVault_eq_none (hp : '<' ∉ p.resource.toList) (h : ∀ change ∈ o.changes, ¬IsChangeOf p change) :
    extractVault o p = .ok none := by
  have hnone : firstVaultChange (some p) (o.changes ++ []) = firstVaultChange (some p) [] :=
    firstVaultChange_append hp h
  rw [List.append_nil] at hnone
  rw [extractVault, hnone]
  rfl

/-- What is shown of a position is what the first change of it leaves. -/
theorem describes_of_extractVault (hp : '<' ∉ p.resource.toList) (h : extractVault o p = .ok result)
    {after : List Json.Fields} (hchanges : o.changes = before ++ change :: after)
    (hbefore : ∀ c ∈ before, ¬IsChangeOf p c) (hchange : IsChangeOf p change) :
    ∃ v, result = some v ∧ Describes p change v := by
  obtain ⟨found, hfound, h⟩ := bind_eq_ok_iff.1 h
  rw [hchanges, firstVaultChange_append hp hbefore] at hfound
  obtain ⟨w, rfl, hdescribes⟩ := firstVaultChange_eq_ok hp hchange hfound
  exact ⟨_, (Except.ok.inj h).symm, hdescribes⟩

/-! ## Entries in another order -/

/-- Whether the entries of a table are the same in another order. -/
def EntriesMoved (key : String) (v w : Json) : Prop :=
  key = "data" ∧ ∃ xs ys, v = .arr xs ∧ w = .arr ys ∧ xs.Perm ys

/-- Whether a table of a position has its entries in another order. -/
def TablesMoved (key : String) (v w : Json) : Prop :=
  (key = "collaterals" ∨ key = "liabilities") ∧ Json.ObjectsAgree EntriesMoved v w

/-- Whether two changes are the same but for the order of the entries in the tables of the resource. -/
def Reordered : Json.Fields → Json.Fields → Prop := Json.FieldsAgree (InData (InData TablesMoved))

theorem sumEntries_perm (h : xs.Perm ys) (hx : sumEntries amount xs = .ok n) :
    sumEntries amount ys = .ok n := by
  induction h generalizing n with
  | nil => exact hx
  | cons e _ ih =>
    obtain ⟨here, later, hhere, hlater, hn⟩ := sumEntries_cons_eq_ok_iff.1 hx
    exact sumEntries_cons_eq_ok_iff.2 ⟨here, later, hhere, ih hlater, hn⟩
  | swap a b rest =>
    obtain ⟨first, _, hfirst, hrest, rfl⟩ := sumEntries_cons_eq_ok_iff.1 hx
    obtain ⟨second, later, hsecond, hlater, rfl⟩ := sumEntries_cons_eq_ok_iff.1 hrest
    exact sumEntries_cons_eq_ok_iff.2 ⟨second, first + later, hsecond,
      sumEntries_cons_eq_ok_iff.2 ⟨first, later, hfirst, hlater, rfl⟩, Int.add_left_comm _ _ _⟩
  | trans _ _ ih ih' => exact ih' (ih hx)

theorem sumTable_moved {table' : Json} (h : table = table' ∨ Json.ObjectsAgree EntriesMoved table table')
    (hsum : sumTable amount table = .ok n) : sumTable amount table' = .ok n := by
  rcases h with rfl | h
  · exact hsum
  cases table with
  | obj fields =>
    obtain ⟨fields', rfl, hfields⟩ := h.exists_obj
    rw [sumTable, entriesOf] at hsum ⊢
    rcases valueIn_agree hfields "data" with hdata | ⟨-, xs, ys, hx, hy, hperm⟩
    · rwa [← hdata]
    · rw [hx, Json.membersIfGiven_arr] at hsum
      rw [hy, Json.membersIfGiven_arr]
      exact sumEntries_perm hperm hsum
  | _ => cases h; exact hsum

theorem vaultTotals_moved {resource' : Json.Fields} {totals : Int × Int}
    (h : Json.FieldsAgree TablesMoved resource resource') (htotals : vaultTotals resource = .ok totals) :
    vaultTotals resource' = .ok totals := by
  rw [vaultTotals_eq_bind] at htotals ⊢
  obtain ⟨collateral, hcollateral, htotals⟩ := bind_eq_ok_iff.1 htotals
  obtain ⟨debt, hdebt, htotals⟩ := bind_eq_ok_iff.1 htotals
  have hcollateral' := sumTable_moved ((valueIn_agree h "collaterals").imp_right And.right) hcollateral
  have hdebt' := sumTable_moved ((valueIn_agree h "liabilities").imp_right And.right) hdebt
  exact bind_eq_ok_iff.2 ⟨collateral, hcollateral', bind_eq_ok_iff.2 ⟨debt, hdebt', htotals⟩⟩

theorem vaultChange?_reordered {position : Option Position} (h : Reordered change change')
    (hread : vaultChange? position change = .ok found) : vaultChange? position change' = .ok found := by
  have hresource := resource?_agree h
  rw [vaultChange?, kindOf_agree h, resourceType?_agree h, addressOf_agree h, deleted_agree h] at hread
  rw [vaultChange?]
  generalize resource? change = vault at hresource hread
  generalize resource? change' = vault' at hresource ⊢
  cases hresource with
  | none => exact hread
  | some hvault =>
    dsimp only at hread ⊢
    split at hread
    · exact hread
    · split at hread
      · next hmatch =>
        obtain ⟨totals, htotals, hread⟩ := bind_eq_ok_iff.1 hread
        rw [if_pos hmatch]
        exact bind_eq_ok_iff.2 ⟨totals, vaultTotals_moved hvault htotals, hread⟩
      · next hmatch =>
        rw [if_neg hmatch]
        exact hread
    · exact hread

theorem firstVaultChange_reordered {changes' : List Json.Fields} (h : List.Forall₂ Reordered changes changes')
    (hfound : firstVaultChange (some p) changes = .ok found) :
    firstVaultChange (some p) changes' = .ok found := by
  induction h with
  | nil => exact hfound
  | cons hchange _ ih =>
    obtain ⟨seen, hseen, hfound⟩ := bind_eq_ok_iff.1 hfound
    refine bind_eq_ok_iff.2 ⟨seen, vaultChange?_reordered hchange hseen, ?_⟩
    cases seen with
    | none => exact ih hfound
    | some w => exact hfound

theorem extractVault_reordered (h : List.Forall₂ Reordered o.changes o'.changes)
    (hread : extractVault o p = .ok result) : extractVault o' p = .ok result := by
  obtain ⟨found, hfound, hread⟩ := bind_eq_ok_iff.1 hread
  exact bind_eq_ok_iff.2 ⟨found, firstVaultChange_reordered h hfound, hread⟩

/-! ## What an outcome shows of a position -/

/-- What an outcome shows of a position. -/
structure ShowsPosition (o : Outcome) (p : Position) (result : Option Vault) : Prop where
  /-- The type of a position is told by its address and its whole path. -/
  exact : ∀ type, p.matches type = true ↔ p.IsTypeOf type
  /-- Nothing is shown if no change is one of the position. -/
  untouched : result = none ↔ ∀ change ∈ o.changes, ¬IsChangeOf p change
  /-- Else the position is as the first of them leaves it. -/
  first : ∀ v, result = some v ↔ ∃ before change after, o.changes = before ++ change :: after ∧
    (∀ c ∈ before, ¬IsChangeOf p c) ∧ Describes p change v
  /-- It is the same in whatever order the entries of the tables stand. -/
  order : ∀ o', List.Forall₂ Reordered o.changes o'.changes → extractVault o' p = .ok result

/-- **A position is as the first change of its exact type leaves it.** -/
theorem extractVault_shows (hp : '<' ∉ p.resource.toList) (h : extractVault o p = .ok result) :
    ShowsPosition o p result := by
  refine ⟨fun _ => matches_iff hp, ⟨?_, fun hnone => ?_⟩, fun v => ⟨?_, ?_⟩,
    fun _ hmoved => extractVault_reordered hmoved h⟩
  · rintro rfl
    refine (forall_not_or_exists_first p o.changes).resolve_right ?_
    rintro ⟨before, change, after, hchanges, hbefore, hchange⟩
    obtain ⟨v, hv, -⟩ := describes_of_extractVault hp h hchanges hbefore hchange
    cases hv
  · exact (Except.ok.inj ((extractVault_eq_none hp hnone).symm.trans h)).symm
  · rintro rfl
    rcases forall_not_or_exists_first p o.changes with
      hnone | ⟨before, change, after, hchanges, hbefore, hchange⟩
    · rw [extractVault_eq_none hp hnone] at h
      cases h
    · obtain ⟨w, hw, hdescribes⟩ := describes_of_extractVault hp h hchanges hbefore hchange
      obtain rfl := Option.some.inj hw
      exact ⟨before, change, after, hchanges, hbefore, hdescribes⟩
  · rintro ⟨before, change, after, hchanges, hbefore, hdescribes⟩
    obtain ⟨w, hw, hdescribes'⟩ := describes_of_extractVault hp h hchanges hbefore hdescribes.isChangeOf
    rw [hw, hdescribes.eq hdescribes']

/-- The write of a resource of a type, with two debts. -/
def owing (type : String) (first second : Json) : Json.Fields :=
  [("type", .str "write_resource"), ("data", .obj [("type", .str type),
    ("data", .obj [("liabilities", .obj [("data", .arr
      [.obj [("value", .obj [("principal", first)])], .obj [("value", .obj [("principal", second)])]])])])])]

/-- A struct whose name goes on is passed over, and both debts are counted. -/
theorem extractVault_shows_market : ∃ o, o.changes = [owing "0xcafe::lending::VaultLog" (.int 5) (.int 6),
      owing "0x0CAFE::lending::Vault<u8>" (.str "30") (.int 40)] ∧
    '<' ∉ Flow.market.resource.toList ∧ extractVault o Flow.market = .ok (some ⟨0, 70, true, "main"⟩) ∧
    ShowsPosition o Flow.market (some ⟨0, 70, true, "main"⟩) := by
  have hp : '<' ∉ Flow.market.resource.toList := by decide
  have hread : extractVault ⟨true, "", 0, 0, [owing "0xcafe::lending::VaultLog" (.int 5) (.int 6),
      owing "0x0CAFE::lending::Vault<u8>" (.str "30") (.int 40)], [], .null⟩ Flow.market =
        .ok (some ⟨0, 70, true, "main"⟩) := rfl
  exact ⟨_, rfl, hp, hread, extractVault_shows hp hread⟩

end Simulation

end MovePlan
