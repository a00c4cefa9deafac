import MovePlan.Cli.Run
import MovePlan.Proofs.Plan.Refused
import MovePlan.Proofs.Simulation.Readings

/-!
# What is wrong with an outcome

A reading of an outcome fails with an error that tells what is wrong, but for a position with a table
whose entries cannot be gone through (`analyze_fails`). Where the reading for an owner succeeds, the
list of all writes can still fail: at a position that the owner does not ask about, and at the cost of
the gas (`exists_summarize_eq_error_iff`).
-/

namespace MovePlan

open Error Plan Move

/-- Whether an error is told and not raised. -/
def Error.IsReported (e : Error) : Prop := Cli.isReported e = true

/-- The errors that tell what is wrong with an outcome: a field that is no integer, an address that is
none, a response of another form. -/
inductive Error.IsOfOutcome : Error → Prop where
  | notInteger (name : String) (value : Json) : IsOfOutcome (.notInteger name value)
  | booleanInteger (name : String) : IsOfOutcome (.booleanInteger name)
  | invalidAddress (text : String) : IsOfOutcome (.invalidAddress text)
  | emptyResponse : IsOfOutcome .emptyResponse
  | responseNotObject (kind : String) : IsOfOutcome (.responseNotObject kind)

/-- What is wrong with an outcome is told. -/
theorem Error.IsOfOutcome.isReported {e : Error} (h : e.IsOfOutcome) : e.IsReported := by
  cases h <;> rfl

/-! ## Amounts -/

/-- An amount is refused as no integer. -/
theorem Json.amount_fails (name : String) (default : Int) (j : Json) :
    FailsBy IsOfOutcome (j.amount name default) := by
  cases j with
  | str s =>
    rw [Json.amount]
    split
    · exact .ok _
    · exact .error (.notInteger _ _)
  | null | int => exact .ok _
  | bool => exact .error (.booleanInteger _)
  | float | arr | obj => exact .error (.notInteger _ _)

/-! ## Outcomes -/

namespace Simulation

theorem ofResponse_fails (j : Json) : FailsBy IsOfOutcome (Outcome.ofResponse j) := by
  have hanswer : ∀ j, FailsBy IsOfOutcome (Outcome.ofAnswer j) := by
    intro j
    unfold Outcome.ofAnswer
    split
    · exact (Json.amount_fails _ _ _).bind fun _ _ => (Json.amount_fails _ _ _).bind fun _ _ => .ok _
    · exact .error (.responseNotObject _)
  unfold Outcome.ofResponse
  split
  · exact .error .emptyResponse
  · exact hanswer _
  · exact hanswer _

/-- A cost fails only beyond the floating-point numbers. -/
theorem gasCost_fails (o : Outcome) : FailsBy (· = .overflow) o.gasCost := by
  unfold Outcome.gasCost
  split
  · exact .ok _
  · exact .error rfl

/-! ## Balances -/

/-- Stores are refused for an address that is none. -/
theorem expectedStores_fails (owner : String) (tokens : List Token) :
    FailsBy IsOfOutcome (expectedStores owner tokens) := by
  induction tokens with
  | nil => exact .ok _
  | cons t rest ih =>
    refine FailsBy.bind ?_ fun _ _ => ih.bind fun _ _ => .ok _
    unfold storeAddress
    split
    · exact .error (.invalidAddress _)
    · split
      · exact .error (.invalidAddress _)
      · exact .ok _

theorem storeWrite?_fails (change : Json.Fields) : FailsBy IsOfOutcome (storeWrite? change) := by
  unfold storeWrite?
  split
  next => exact .ok _
  next metadata balance _ =>
    split
    next => exact .ok _
    next e he => exact .error (Json.amount_fails _ _ balance e he)

/-- Balances are refused for one that is no integer, at whatever address. -/
theorem balancesFrom_fails (stores : List (String × String)) (changes : List Json.Fields)
    (acc : Balances) : FailsBy IsOfOutcome (balancesFrom stores changes acc) := by
  induction changes generalizing acc with
  | nil => exact .ok _
  | cons change rest ih =>
    refine (storeWrite?_fails change).bind fun write _ => ?_
    cases write with
    | none => exact ih acc
    | some write =>
      dsimp only
      split
      · exact ih acc
      · exact ih _

/-- Where the balances are read, every write of a store is. -/
theorem exists_storeWrite?_eq_ok {stores : List (String × String)} {changes : List Json.Fields}
    {acc balances : Balances} (h : balancesFrom stores changes acc = .ok balances) :
    ∀ change ∈ changes, ∃ write, storeWrite? change = .ok write := by
  induction changes generalizing acc with
  | nil => simp
  | cons change rest ih =>
    obtain ⟨write, hwrite, h⟩ := bind_eq_ok_iff.1 h
    rw [List.forall_mem_cons]
    refine ⟨⟨write, hwrite⟩, ?_⟩
    cases write with
    | none => exact ih h
    | some write =>
      dsimp only at h
      split at h
      · exact ih h
      · exact ih h

/-! ## Positions -/

/-- Whether a change is that of a position with a table whose entries cannot be gone through. -/
def HasLoneTable (change : Json.Fields) : Prop :=
  ∃ vault, resource? change = some vault ∧
    ∃ key ∈ ["collaterals", "liabilities"], ((valueIn vault key).get "data").isLone = true

/-- A table has entries unless its data are a lone value. -/
theorem entriesOf_fails (table : Json) :
    FailsBy (fun e => e = .wrongType ∧ (table.get "data").isLone = true) (entriesOf table) := by
  cases table with
  | obj fields =>
    rcases Json.membersIfGiven_eq (valueIn fields "data") with ⟨hlone, h⟩ | ⟨-, xs, h⟩
    · rw [entriesOf, h]
      exact .error ⟨rfl, hlone⟩
    · rw [entriesOf, h]
      exact .ok _
  | _ => exact .ok _

theorem sumEntries_fails {amount : Json → Except Error Int}
    (h : ∀ entry, FailsBy IsOfOutcome (amount entry)) (entries : List Json) :
    FailsBy IsOfOutcome (sumEntries amount entries) := by
  induction entries with
  | nil => exact .ok _
  | cons e rest ih => exact (h e).bind fun _ _ => ih.bind fun _ _ => .ok _

/-- What is wrong with a position is told, but for a table that cannot be gone through. -/
theorem vaultTotals_fails (vault : Json.Fields) : FailsBy (fun e => e.IsOfOutcome ∨
      (e = .wrongType ∧ ∃ key ∈ ["collaterals", "liabilities"],
        ((valueIn vault key).get "data").isLone = true)) (vaultTotals vault) := by
  have htable : ∀ key ∈ ["collaterals", "liabilities"], FailsBy (fun e => e.IsOfOutcome ∨
      (e = .wrongType ∧ ∃ key ∈ ["collaterals", "liabilities"],
        ((valueIn vault key).get "data").isLone = true)) (entriesOf (valueIn vault key)) :=
    fun key hkey => (entriesOf_fails _).imp fun _ ⟨he, hlone⟩ => Or.inr ⟨he, key, hkey, hlone⟩
  refine (htable "collaterals" (by simp)).bind fun collaterals _ => ?_
  refine ((sumEntries_fails (fun entry => ?_) collaterals).imp fun _ => Or.inl).bind fun _ _ => ?_
  · unfold collateralOf
    split
    · exact Json.amount_fails _ _ _
    · exact .ok _
  refine (htable "liabilities" (by simp)).bind fun liabilities _ => ?_
  exact ((sumEntries_fails (fun entry => Json.amount_fails _ _ _) liabilities).imp
    fun _ => Or.inl).bind fun _ _ => .ok _

/-- The change of a position is refused as its amounts are, or for such a table. -/
theorem vaultChange?_fails (position : Option Position) (change : Json.Fields) :
    FailsBy (fun e => e.IsOfOutcome ∨ (e = .wrongType ∧ HasLoneTable change))
      (vaultChange? position change) := by
  unfold vaultChange?
  split
  · split
    · split
      · exact .ok _
      · exact .ok _
    · exact .ok _
  · split
    · split
      next => exact .ok _
      next vault hvault =>
        refine ((vaultTotals_fails vault).imp fun _ => Or.imp_right ?_).bind fun _ _ => .ok _
        rintro ⟨he, hkey⟩
        exact ⟨he, vault, hvault, hkey⟩
    · exact .ok _
  · exact .ok _

/-! ## The two readings -/

variable {o : Outcome} {tokens : List Token} {owner : String} {position : Option Position}

theorem firstVaultChange_fails (position : Option Position) (changes : List Json.Fields) :
    FailsBy (fun e => e.IsOfOutcome ∨ (e = .wrongType ∧ ∃ change ∈ changes, HasLoneTable change))
      (firstVaultChange position changes) := by
  induction changes with
  | nil => exact .ok _
  | cons change rest ih =>
    refine ((vaultChange?_fails position change).imp fun _ => Or.imp_right
      fun ⟨he, h⟩ => ⟨he, change, List.mem_cons_self, h⟩).bind fun vault _ => ?_
    cases vault with
    | some v => exact .ok _
    | none =>
      exact ih.imp fun _ => Or.imp_right
        fun ⟨he, c, hc, h⟩ => ⟨he, c, List.mem_cons_of_mem change hc, h⟩

/-- The balances of an owner fail with an error that is told. -/
theorem extractBalances_fails (o : Outcome) (tokens : List Token) (owner : String) :
    FailsBy IsOfOutcome (extractBalances o tokens owner) :=
  (expectedStores_fails owner tokens).bind fun stores _ => balancesFrom_fails stores o.changes []

/-- Where the reading for an owner fails, it tells why, but for a table of the position. -/
theorem analyze_fails (o : Outcome) (tokens : List Token) (owner : String)
    (position : Option Position) : FailsBy (fun e => e.IsReported ∨ (e = .wrongType ∧
      position.isSome = true ∧ ∃ change ∈ o.changes, HasLoneTable change))
      (analyze o tokens owner position) := by
  unfold analyze
  refine ((extractBalances_fails o tokens owner).imp fun _ he => Or.inl he.isReported).bind
    fun balances _ => ?_
  cases position with
  | none => exact .ok _
  | some p =>
    have hvault := (firstVaultChange_fails (some p) o.changes).bind
      fun change _ => .ok (change.map fun v => (⟨v.collateral, v.debt, v.present, p.market⟩ : Vault))
    exact (hvault.imp fun _ => Or.imp IsOfOutcome.isReported fun ⟨he, h⟩ => ⟨he, rfl, h⟩).bind
      fun _ _ => .ok _

/-- Whether a change is that of a position, and wrong. -/
def SpoilsVault (position : Option Position) (change : Json.Fields) (e : Error) : Prop :=
  storeWrite? change = .ok none ∧ vaultChange? position change = .error e

/-- Where every store is read, the list of writes fails at a position only. -/
theorem writesOf_fails {changes : List Json.Fields} (registry : Registry)
    (position : Option Position)
    (hstores : ∀ change ∈ changes, ∃ write, storeWrite? change = .ok write) :
    FailsBy (fun e => ∃ change ∈ changes, SpoilsVault position change e)
      (writesOf registry position changes) := by
  induction changes with
  | nil => exact .ok _
  | cons change rest ih =>
    rw [List.forall_mem_cons] at hstores
    have hrest := (ih hstores.2).imp fun e (⟨c, hc, h⟩ : ∃ c ∈ rest, SpoilsVault position c e) =>
      (⟨c, List.mem_cons_of_mem change hc, h⟩ : ∃ c ∈ change :: rest, SpoilsVault position c e)
    obtain ⟨write, hwrite⟩ := hstores.1
    refine FailsBy.bind (by rw [hwrite]; exact .ok _) fun write hwrite => ?_
    cases write with
    | some write => exact hrest.bind fun _ _ => .ok _
    | none =>
      refine FailsBy.bind (fun e he => ⟨change, List.mem_cons_self, hwrite, he⟩) fun _ _ => ?_
      exact hrest.bind fun _ _ => .ok _

/-- The second reading goes through every change, so that no position may be wrong. -/
theorem exists_writesOf_eq_error {changes : List Json.Fields} (registry : Registry)
    {change : Json.Fields} {e : Error} (hmem : change ∈ changes) (h : SpoilsVault position change e) :
    ∃ e', writesOf registry position changes = .error e' := by
  cases hw : writesOf registry position changes with
  | error e' => exact ⟨e', rfl⟩
  | ok writes =>
    obtain ⟨entries, hentries, -⟩ := exists_entries_of_writesOf hw
    have hshown : ∀ c entry, Shows registry position c entry →
        ¬SpoilsVault position c e ∧ Shows registry position c entry := by
      refine fun c entry hshows => ⟨fun ⟨hstore, hvault⟩ => ?_, hshows⟩
      cases hshows with
      | store write hwrite => rw [hstore] at hwrite; cases hwrite
      | vault v _ hv => rw [hvault] at hv; cases hv
      | nothing _ hv => rw [hvault] at hv; cases hv
    exact (((List.forall₂_and_left _ _).1 (hentries.imp hshown)).1 change hmem h).elim

/-- Where the first reading succeeds, the second fails at a position or at the cost of the gas. -/
theorem summarize_fails {analysis : Analysis} (registry : Registry)
    (h : analyze o tokens owner position = .ok analysis) : FailsBy (fun e =>
      (∃ change ∈ o.changes, SpoilsVault position change e) ∨
        (e = .overflow ∧ o.gasCost = .error .overflow)) (summarize o registry position) := by
  obtain ⟨balances, hbalances, -⟩ := bind_eq_ok_iff.1 h
  obtain ⟨stores, -, hbalances⟩ := bind_eq_ok_iff.1 hbalances
  have hwrites := writesOf_fails registry position (exists_storeWrite?_eq_ok hbalances)
  refine (hwrites.imp fun _ => Or.inl).bind fun _ _ => FailsBy.bind (fun e he => ?_) fun _ _ => .ok _
  obtain rfl := gasCost_fails o e he
  exact Or.inr ⟨rfl, he⟩

/-- The second reading fails exactly at a position that spoils it or for the cost of the gas. -/
theorem exists_summarize_eq_error_iff {analysis : Analysis} (registry : Registry)
    (h : analyze o tokens owner position = .ok analysis) :
    (∃ e, summarize o registry position = .error e) ↔
      (∃ change ∈ o.changes, ∃ e, SpoilsVault position change e) ∨
        o.gasCost = .error .overflow := by
  constructor
  · rintro ⟨e, he⟩
    rcases summarize_fails registry h e he with ⟨change, hmem, hspoils⟩ | ⟨-, hgas⟩
    · exact Or.inl ⟨change, hmem, e, hspoils⟩
    · exact Or.inr hgas
  · rintro (⟨change, hmem, e, hspoils⟩ | hgas)
    · obtain ⟨e', he'⟩ := exists_writesOf_eq_error registry hmem hspoils
      exact ⟨e', bind_eq_error_iff.2 (Or.inl he')⟩
    · cases hwrites : writesOf registry position o.changes with
      | error e => exact ⟨e, bind_eq_error_iff.2 (Or.inl hwrites)⟩
      | ok writes =>
        exact ⟨.overflow, bind_eq_error_iff.2
          (Or.inr ⟨writes, hwrites, bind_eq_error_iff.2 (Or.inl hgas)⟩)⟩

end Simulation

end MovePlan
