import MovePlan.Proofs.Json.Fields
import MovePlan.Proofs.Text.Numeral
import MovePlan.Simulation.Analysis

/-!
# Integers as numbers and as texts

A node gives an integer as a number or as the text that spells it. A response in which numbers are
replaced by their texts (`Simulation.Respelled`) is read as the same outcome: the same gas, amounts,
balances and positions, or the same error (`Simulation.reads_same`). The one exception is a gas price
that is the number zero, which is taken for none given (`Simulation.zero_price_read_otherwise`).

What is replaced is told by where it stands. Each reading meets its own part of the response, in which
it finds the same integer in both spellings, and all else unchanged.
-/

namespace MovePlan

open Numeric Text

namespace Json

/-- The digits of an integer as a text. -/
def spelled (n : Int) : Json := .str (String.ofList (intText n))

/-- Whether the second value is the text of the integer that the first one is. -/
def Spelt (v w : Json) : Prop := ∃ n, hasText n = true ∧ v = .int n ∧ w = spelled n

variable {v w : Json}

/-- An integer and its text are two spellings of it. -/
theorem spelt_spelled {n : Int} (h : hasText n = true) : Spelt (.int n) (spelled n) :=
  ⟨n, h, rfl, rfl⟩

/-- An amount is the same in both spellings. -/
theorem amount_spelt (h : v = w ∨ Spelt v w) (name : String) (default : Int) :
    v.amount name default = w.amount name default := by
  rcases h with rfl | ⟨n, hn, rfl, rfl⟩
  · rfl
  · have hread : readInt? (trim (intText n)) = some n := by
      rw [trim, trimBy_eq_self fun _ => isBlank_of_mem_intText, readInt?_intText hn]
    rw [amount, spelled, amount, String.toList_ofList, hread]

/-- They are shown in the same way. -/
theorem display_spelt (h : v = w ∨ Spelt v w) : v.display = w.display := by
  rcases h with rfl | ⟨n, -, rfl, rfl⟩
  · rfl
  · rfl

theorem isNull_spelt (h : v = w ∨ Spelt v w) : v.isNull = w.isNull := by
  rcases h with rfl | ⟨n, -, rfl, rfl⟩
  · rfl
  · rfl

/-- The text of an integer counts as given, also that of zero. -/
theorem given_spelled (n : Int) : (spelled n).given = true := by
  have hne : String.ofList (intText n) ≠ "" := fun h =>
    intText_ne_nil n (String.ofList_inj.1 (h.trans String.ofList_nil.symm))
  simpa [spelled, given] using hne

/-- A default does not tell the spellings apart where it is zero or no zero is replaced by it. -/
theorem amount_orElse_spelt (h : v = w ∨ Spelt v w) {default : Int} (hv : v = .int 0 → default = 0)
    (name : String) : (v.orElse (.int default)).amount name 0 =
      (w.orElse (.int default)).amount name 0 := by
  rcases h with rfl | hspelt
  · rfl
  · have hsame := amount_spelt (Or.inr hspelt) name 0
    obtain ⟨n, -, rfl, rfl⟩ := hspelt
    rw [orElse, orElse, given_spelled, if_pos rfl, ← hsame]
    by_cases hn : n = 0
    · subst hn
      rw [hv rfl]
      rfl
    · simp [given, hn]

end Json

/-! ## Where integers are read -/

namespace Simulation

open Json

/-- Whether two tables have entries that are related. -/
def TableField (Entry : Json → Json → Prop) (key : String) (v w : Json) : Prop :=
  key = "data" ∧ ItemsAgree (fun _ => Entry) v w

/-- Whether two entries of the collaterals are the same but for the spelling of the value. -/
def CollateralsAgree : Json → Json → Prop :=
  ObjectsAgree fun key v w => key = "value" ∧ Spelt v w

/-- Whether two entries of the liabilities are the same but for the spelling of the principal. -/
def LiabilitiesAgree : Json → Json → Prop :=
  ObjectsAgree fun key v w => key = "value" ∧
    ObjectsAgree (fun key v w => key = "principal" ∧ Spelt v w) v w

/-- What is respelled in a resource: the balance of a store, the tables of a position. -/
def ResourceField (key : String) (v w : Json) : Prop :=
  (key = "balance" ∧ Spelt v w) ∨
    (key = "collaterals" ∧ ObjectsAgree (TableField CollateralsAgree) v w) ∨
    (key = "liabilities" ∧ ObjectsAgree (TableField LiabilitiesAgree) v w)

/-- What is respelled in the data of a change: parts of the resource that is written. -/
def DataField (key : String) (v w : Json) : Prop := key = "data" ∧ ObjectsAgree ResourceField v w

/-- What is respelled in a change: parts of its data. -/
def ChangeField (key : String) (v w : Json) : Prop := key = "data" ∧ ObjectsAgree DataField v w

/-- What is respelled in an event: the amount in its data. -/
def EventField (key : String) (v w : Json) : Prop :=
  key = "data" ∧ ObjectsAgree (fun key v w => key = "amount" ∧ Spelt v w) v w

/-- What is respelled in an answer: the gas and its price, and parts of the changes and the events. -/
def AnswerField (key : String) (v w : Json) : Prop :=
  ((key = "gas_used" ∨ key = "gas_unit_price") ∧ Spelt v w) ∨
    (key = "changes" ∧ ItemsAgree (fun _ => ObjectsAgree ChangeField) v w) ∨
    (key = "events" ∧ ItemsAgree (fun _ => ObjectsAgree EventField) v w)

/-- Whether the second response is the first one with integers replaced by their texts. A response is
an answer, or a list that begins with one. -/
inductive Respelled : Json → Json → Prop where
  | answer {r r' : Json} (h : ObjectsAgree AnswerField r r') : Respelled r r'
  | first {r r' : Json} (rest : List Json) (h : ObjectsAgree AnswerField r r') :
    Respelled (.arr (r :: rest)) (.arr (r' :: rest))

/-! ## Changes -/

variable {vault vault' change change' fields fields' : Json.Fields}

/-- A field has the same value in both of two objects, or two related ones. -/
theorem valueIn_agree {R : String → Json → Json → Prop} (h : FieldsAgree R fields fields')
    (key : String) : valueIn fields key = valueIn fields' key ∨
      R key (valueIn fields key) (valueIn fields' key) := (h.field? key).getD

/-- A field that is not respelled has the same value in both. -/
theorem valueIn_eq {R : String → Json → Json → Prop} (h : FieldsAgree R fields fields')
    {key : String} (hR : ∀ v w, ¬R key v w) : valueIn fields key = valueIn fields' key :=
  (valueIn_agree h key).resolve_right (hR _ _)

/-- The fields of two values that are equal, or objects that agree. -/
theorem fields?_agree {R : String → Json → Json → Prop} {v w : Json}
    (h : v = w ∨ ObjectsAgree R v w) : Option.Rel (FieldsAgree R) v.fields? w.fields? := by
  rcases h with rfl | h
  · exact ObjectsAgree.fields? (.refl v)
  · exact h.fields?

section

variable {R : String → Json → Json → Prop}

/-- Whether a field is the data of its object, and has fields that agree but where they are related. -/
def InData (R : String → Json → Json → Prop) (key : String) (v w : Json) : Prop :=
  key = "data" ∧ ObjectsAgree R v w

/-- In the data of a change only what may differ differs. -/
theorem dataOf_agree (h : FieldsAgree (InData R) change change') :
    Option.Rel (FieldsAgree R) (dataOf change) (dataOf change') :=
  fields?_agree ((valueIn_agree h "data").imp_right And.right)

theorem resource?_agree (h : FieldsAgree (InData (InData R)) change change') :
    Option.Rel (FieldsAgree R) (resource? change) (resource? change') := by
  have hdata := dataOf_agree h
  rw [resource?, resource?]
  generalize dataOf change = data at hdata ⊢
  generalize dataOf change' = data' at hdata ⊢
  cases hdata with
  | none => exact .none
  | some hdata => exact fields?_agree ((valueIn_agree hdata "data").imp_right And.right)

/-- The type of a resource is not respelled. -/
theorem resourceType?_agree (h : FieldsAgree (InData (InData R)) change change') :
    resourceType? change = resourceType? change' := by
  have hdata := dataOf_agree h
  rw [resourceType?, resourceType?]
  generalize dataOf change = data at hdata ⊢
  generalize dataOf change' = data' at hdata ⊢
  cases hdata with
  | none => rfl
  | some hdata =>
    have htype : valueIn _ "type" = valueIn _ "type" := valueIn_eq hdata (by simp [InData])
    rw [Option.bind_some, Option.bind_some, htype]

/-- The kind of a change is not respelled. -/
theorem kindOf_agree (h : FieldsAgree (InData R) change change') : kindOf change = kindOf change' := by
  have hkind : valueIn change "type" = valueIn change' "type" := valueIn_eq h (by simp [InData])
  rw [kindOf, kindOf, hkind]

/-- The address of a change is not respelled. -/
theorem addressOf_agree (h : FieldsAgree (InData R) change change') :
    addressOf change = addressOf change' := by
  have haddress : valueIn change "address" = valueIn change' "address" := valueIn_eq h (by simp [InData])
  rw [addressOf, addressOf, haddress]

/-- What is deleted by a change is told beside its data. -/
theorem deleted_agree (h : FieldsAgree (InData R) change change') :
    valueIn change "resource" = valueIn change' "resource" := valueIn_eq h (by simp [InData])

end

/-! ## Stores and positions -/

/-- The write of a store shows the same asset in both, and a balance that is spelt in one way or the
other. -/
theorem storeFields?_agree (h : FieldsAgree ChangeField change change') :
    Option.Rel (fun a b => a.1 = b.1 ∧ (a.2 = b.2 ∨ Spelt a.2 b.2))
      (storeFields? change) (storeFields? change') := by
  have hresource := resource?_agree h
  rw [storeFields?, storeFields?, kindOf_agree h, resourceType?_agree h]
  generalize resource? change = store at hresource ⊢
  generalize resource? change' = store' at hresource ⊢
  by_cases hkind : kindOf change' ≠ some "write_resource"
  · simpa only [if_pos hkind] using .none
  rw [if_neg hkind, if_neg hkind]
  cases (resourceType? change').any isStoreType with
  | false => exact .none
  | true =>
    cases hresource with
    | none => exact .none
    | @some store store' hstore =>
      have hbalance : valueIn store "balance" = valueIn store' "balance" ∨
          Spelt (valueIn store "balance") (valueIn store' "balance") :=
        (valueIn_agree hstore "balance").imp_right (by simp [ResourceField])
      have hmetadata : valueIn store "metadata" = valueIn store' "metadata" :=
        valueIn_eq hstore (by simp [ResourceField])
      dsimp only
      rw [hmetadata, isNull_spelt hbalance]
      cases (valueIn store' "balance").isNull with
      | true => exact .none
      | false =>
        cases ((valueIn store' "metadata").get "inner").text? with
        | none => exact .none
        | some metadata => exact .some ⟨rfl, hbalance⟩

/-- The write of a store is read in both spellings as the same. -/
theorem storeWrite?_respelled (h : FieldsAgree ChangeField change change') :
    storeWrite? change = storeWrite? change' := by
  have hfields := storeFields?_agree h
  rw [storeWrite?, storeWrite?]
  generalize storeFields? change = fields at hfields ⊢
  generalize storeFields? change' = fields' at hfields ⊢
  cases hfields with
  | none => rfl
  | @some a b hab =>
    obtain ⟨metadata, balance⟩ := a
    obtain ⟨metadata', balance'⟩ := b
    obtain ⟨rfl, hbalance⟩ := hab
    dsimp only
    rw [amount_spelt hbalance]

theorem collateralOf_respelled {v w : Json} (h : CollateralsAgree v w) :
    collateralOf v = collateralOf w := by
  have hvalue := (h.get "value").imp_right And.right
  rw [collateralOf, collateralOf, h.isObject_eq, amount_spelt hvalue]

theorem principalOf_respelled {v w : Json} (h : LiabilitiesAgree v w) :
    principalOf v = principalOf w := by
  have hprincipal : (v.get "value").get "principal" = (w.get "value").get "principal" ∨
      Spelt ((v.get "value").get "principal") ((w.get "value").get "principal") := by
    rcases h.get "value" with hvalue | ⟨-, hvalue⟩
    · exact Or.inl (by rw [hvalue])
    · exact (hvalue.get "principal").imp_right And.right
  rw [principalOf, principalOf, amount_spelt hprincipal]

/-- The sum over the entries of a table, if there are any. -/
def sumTable (amount : Json → Except Error Int) (table : Json) : Except Error Int :=
  entriesOf table >>= sumEntries amount

/-- Entries with the same amounts have the same sum. -/
theorem sumEntries_respelled {Entry : Json → Json → Prop} {amount : Json → Except Error Int}
    {xs ys : List Json} (hamount : ∀ x y, Entry x y → amount x = amount y)
    (h : List.Forall₂ Entry xs ys) : sumEntries amount xs = sumEntries amount ys := by
  induction h with
  | nil => rfl
  | cons hxy _ ih => rw [sumEntries, sumEntries, hamount _ _ hxy, ih]

theorem sumTable_respelled {Entry : Json → Json → Prop} {amount : Json → Except Error Int}
    {v w : Json} (hamount : ∀ x y, Entry x y → amount x = amount y)
    (h : v = w ∨ ObjectsAgree (TableField Entry) v w) : sumTable amount v = sumTable amount w := by
  rcases h with rfl | h
  · rfl
  cases v with
  | obj fs =>
    obtain ⟨gs, rfl, hfields⟩ := h.exists_obj
    rw [sumTable, sumTable, entriesOf, entriesOf]
    have hdata := (valueIn_agree hfields "data").imp_right And.right
    generalize valueIn fs "data" = data at hdata ⊢
    generalize valueIn gs "data" = data' at hdata ⊢
    rcases hdata with rfl | hitems
    · rfl
    cases data with
    | arr xs =>
      obtain ⟨ys, rfl, hlen, -⟩ := hitems.exists_arr
      rw [membersIfGiven_arr, membersIfGiven_arr]
      exact sumEntries_respelled hamount hitems.forall₂
    | _ => cases hitems; rfl
  | _ => cases h; rfl

theorem vaultTotals_eq_bind (vault : Json.Fields) : vaultTotals vault =
    sumTable collateralOf (valueIn vault "collaterals") >>= fun collateral =>
      sumTable principalOf (valueIn vault "liabilities") >>= fun debt =>
        .ok (collateral, debt) := by
  simp only [vaultTotals, sumTable, bind_assoc]
  rfl

/-- The totals of a position are the same in both spellings. -/
theorem vaultTotals_respelled (h : FieldsAgree ResourceField vault vault') :
    vaultTotals vault = vaultTotals vault' := by
  have hcollaterals : sumTable collateralOf (valueIn vault "collaterals") =
      sumTable collateralOf (valueIn vault' "collaterals") :=
    sumTable_respelled (fun _ _ => collateralOf_respelled)
      ((valueIn_agree h "collaterals").imp_right (by simp [ResourceField]))
  have hliabilities : sumTable principalOf (valueIn vault "liabilities") =
      sumTable principalOf (valueIn vault' "liabilities") :=
    sumTable_respelled (fun _ _ => principalOf_respelled)
      ((valueIn_agree h "liabilities").imp_right (by simp [ResourceField]))
  rw [vaultTotals_eq_bind, vaultTotals_eq_bind, hcollaterals, hliabilities]

/-- The change of a position is the same in both spellings. -/
theorem vaultChange?_respelled (h : FieldsAgree ChangeField change change')
    (position : Option Position) : vaultChange? position change = vaultChange? position change' := by
  have hdeleted := deleted_agree h
  have hresource := resource?_agree h
  rw [vaultChange?, vaultChange?, kindOf_agree h, resourceType?_agree h,
    addressOf_agree h, hdeleted]
  generalize resource? change = vault at hresource ⊢
  generalize resource? change' = vault' at hresource ⊢
  cases hresource with
  | none => rfl
  | some hvault =>
    dsimp only
    rw [vaultTotals_respelled hvault]

/-! ## All changes -/

section

variable {changes changes' : List Json.Fields}

/-- Changes that are respelled leave the same balances. -/
theorem balancesFrom_respelled (h : List.Forall₂ (FieldsAgree ChangeField) changes changes')
    (stores : List (String × String)) (acc : Balances) :
    balancesFrom stores changes acc = balancesFrom stores changes' acc := by
  induction h generalizing acc with
  | nil => rfl
  | cons hchange _ ih =>
    simp only [balancesFrom, storeWrite?_respelled hchange, addressOf_agree hchange, ih]

/-- They have the same first change of a position. -/
theorem firstVaultChange_respelled (h : List.Forall₂ (FieldsAgree ChangeField) changes changes')
    (position : Option Position) :
    firstVaultChange position changes = firstVaultChange position changes' := by
  induction h with
  | nil => rfl
  | cons hchange _ ih =>
    simp only [firstVaultChange, vaultChange?_respelled hchange, ih]

/-- They have the same list of writes. -/
theorem writesOf_respelled (h : List.Forall₂ (FieldsAgree ChangeField) changes changes')
    (registry : Registry) (position : Option Position) :
    writesOf registry position changes = writesOf registry position changes' := by
  induction h with
  | nil => rfl
  | cons hchange _ ih =>
    simp only [writesOf, storeWrite?_respelled hchange, vaultChange?_respelled hchange,
      addressOf_agree hchange, ih]

end

/-! ## Events -/

/-- An event without the data that it is read from. -/
def Event.bare (e : Event) : Event := { e with data := [] }

theorem amountOf_spelt {v w : Json} (h : v = w ∨ Spelt v w) :
    Event.amountOf v = Event.amountOf w := by
  rw [Event.amountOf, Event.amountOf, isNull_spelt h, display_spelt h, amount_spelt h]

/-- An event is the same but for its data. -/
theorem bare_ofFields (h : FieldsAgree EventField fields fields') :
    (Event.ofFields fields).bare = (Event.ofFields fields').bare := by
  have htype : valueIn fields "type" = valueIn fields' "type" :=
    valueIn_eq h (by simp [EventField])
  have hdata := fields?_agree ((valueIn_agree h "data").imp_right And.right)
  have hamount : Event.amountOf (valueIn ((valueIn fields "data").fields?.getD []) "amount") =
      Event.amountOf (valueIn ((valueIn fields' "data").fields?.getD []) "amount") := by
    generalize (valueIn fields "data").fields? = data at hdata ⊢
    generalize (valueIn fields' "data").fields? = data' at hdata ⊢
    cases hdata with
    | none => rfl
    | some hdata => exact amountOf_spelt ((valueIn_agree hdata "amount").imp_right And.right)
  simp only [Event.ofFields, Event.bare, htype, hamount]

/-! ## Outcomes -/

/-- Whether two computations fail in the same way, or give results that are related. -/
inductive EndsAlike {α : Type} (R : α → α → Prop) : Except Error α → Except Error α → Prop where
  | error (e : Error) : EndsAlike R (.error e) (.error e)
  | ok {a b : α} (h : R a b) : EndsAlike R (.ok a) (.ok b)

section

variable {α β : Type} {R : α → α → Prop} {S : β → β → Prop} {x y : Except Error α}

theorem EndsAlike.of_eq (hR : ∀ a, R a a) (h : x = y) : EndsAlike R x y := by
  subst h
  cases x with
  | error e => exact .error e
  | ok a => exact .ok (hR a)

/-- What follows two computations that end alike may end alike too. -/
theorem EndsAlike.bind {f g : α → Except Error β} (h : EndsAlike R x y)
    (hfg : ∀ a b, R a b → EndsAlike S (f a) (g b)) : EndsAlike S (x >>= f) (y >>= g) := by
  cases h with
  | error e => exact .error e
  | ok hab => exact hfg _ _ hab

/-- To end alike in equal values is to be equal. -/
theorem EndsAlike.eq (h : EndsAlike Eq x y) : x = y := by
  cases h with
  | error e => rfl
  | ok hab => rw [hab]

theorem EndsAlike.map_eq {f : α → β} (h : EndsAlike R x y) (hf : ∀ a b, R a b → f a = f b) :
    x.map f = y.map f := by
  cases h with
  | error e => rfl
  | ok hab => exact congrArg Except.ok (hf _ _ hab)

end

/-- The objects among the items of two arrays. -/
theorem objectsOf_agree {R : String → Json → Json → Prop} {v w : Json}
    (h : v = w ∨ ItemsAgree (fun _ => ObjectsAgree R) v w) :
    List.Forall₂ (FieldsAgree R) (objectsOf v) (objectsOf w) := by
  have hitems : ItemsAgree (fun _ => ObjectsAgree R) v w := by
    rcases h with rfl | h
    · exact ItemsAgree.refl (fun _ => ObjectsAgree.refl) v
    · exact h
  cases v with
  | arr xs =>
    obtain ⟨ys, rfl, -⟩ := hitems.exists_arr
    exact List.rel_filterMap (fun _ _ hxy => fields?_agree (Or.inr hxy)) hitems.forall₂
  | _ => cases hitems; exact .nil

/-- A price is read the same in both spellings but for a zero, which counts as given only as a text. -/
theorem price_spelt {v w : Json} (h : v = w ∨ Spelt v w) (name : String) (default : Int) :
    EndsAlike (fun m n => m = n ∨ (v = .int 0 ∧ m = default ∧ n = 0))
      ((v.orElse (.int default)).amount name 0) ((w.orElse (.int default)).amount name 0) := by
  by_cases hv : v = .int 0
  · rcases h with rfl | ⟨n, -, rfl, rfl⟩
    · exact .of_eq (fun _ => Or.inl rfl) rfl
    -- the number zero makes way for the default, its text does not
    · obtain rfl := Json.int.inj hv
      rw [orElse, orElse, given_spelled, if_pos rfl, ← amount_spelt (Or.inr (spelt_spelled hasText_zero))]
      exact .ok (Or.inr ⟨rfl, rfl, rfl⟩)
  · exact .of_eq (fun _ => Or.inl rfl) (amount_orElse_spelt h (fun h => absurd h hv) name)

/-- Whether two outcomes are the same but for the spelling of what is read from them later, and but
for a price that is taken for none given. -/
structure Outcome.SameAs (zero : Prop) (o o' : Outcome) : Prop where
  success : o.success = o'.success
  status : o.status = o'.status
  gasUsed : o.gasUsed = o'.gasUsed
  gasPrice : o.gasPrice = o'.gasPrice ∨ (zero ∧ o.gasPrice = defaultGasPrice ∧ o'.gasPrice = 0)
  changes : List.Forall₂ (FieldsAgree ChangeField) o.changes o'.changes
  events : List.Forall₂ (FieldsAgree EventField) o.events o'.events

theorem Outcome.SameAs.refl {zero : Prop} (o : Outcome) : o.SameAs zero o where
  success := rfl
  status := rfl
  gasUsed := rfl
  gasPrice := Or.inl rfl
  changes := List.forall₂_same.2 fun _ _ => FieldsAgree.refl _
  events := List.forall₂_same.2 fun _ _ => FieldsAgree.refl _

/-- The two answers tell the same, but for a price that is the number zero. -/
theorem ofFields_respelled (h : FieldsAgree AnswerField fields fields') :
    EndsAlike (Outcome.SameAs (valueIn fields "gas_unit_price" = .int 0))
      (Outcome.ofFields fields) (Outcome.ofFields fields') := by
  have hused : valueIn fields "gas_used" = valueIn fields' "gas_used" ∨
      Spelt (valueIn fields "gas_used") (valueIn fields' "gas_used") :=
    (valueIn_agree h "gas_used").imp_right (by simp [AnswerField])
  have hprice : valueIn fields "gas_unit_price" = valueIn fields' "gas_unit_price" ∨
      Spelt (valueIn fields "gas_unit_price") (valueIn fields' "gas_unit_price") :=
    (valueIn_agree h "gas_unit_price").imp_right (by simp [AnswerField])
  have hsuccess : valueIn fields "success" = valueIn fields' "success" :=
    valueIn_eq h (by simp [AnswerField])
  have hstatus : valueIn fields "vm_status" = valueIn fields' "vm_status" :=
    valueIn_eq h (by simp [AnswerField])
  refine EndsAlike.bind (.of_eq (fun _ => rfl) (amount_orElse_spelt hused (fun _ => rfl) _))
    fun used used' hused' => EndsAlike.bind (price_spelt hprice _ _) fun price price' hprice' => ?_
  exact .ok {
    success := by rw [hsuccess]
    status := by rw [hstatus]
    gasUsed := hused'
    gasPrice := hprice'
    changes := objectsOf_agree ((valueIn_agree h "changes").imp_right (by simp [AnswerField]))
    events := objectsOf_agree ((valueIn_agree h "events").imp_right (by simp [AnswerField])) }

theorem ofAnswer_respelled {r r' : Json} (h : ObjectsAgree AnswerField r r') :
    EndsAlike (Outcome.SameAs (r.get "gas_unit_price" = .int 0))
      (Outcome.ofAnswer r) (Outcome.ofAnswer r') := by
  cases r with
  | obj fields =>
    obtain ⟨fields', rfl, hfields⟩ := h.exists_obj
    exact ofFields_respelled hfields
  | _ => cases h; exact .error _

/-- The answer that a response begins with. -/
def answerIn : Json → Json
  | .arr (first :: _) => first
  | r => r

/-- Whether the price of the gas is the number zero. -/
def IsFreeNumber (r : Json) : Prop := (answerIn r).get "gas_unit_price" = .int 0

/-- The two responses end alike. -/
theorem ofResponse_respelled {r r' : Json} (h : Respelled r r') :
    EndsAlike (Outcome.SameAs (IsFreeNumber r)) (Outcome.ofResponse r) (Outcome.ofResponse r') := by
  cases h with
  | first rest h => exact ofAnswer_respelled h
  | answer h =>
    cases r with
    -- a list is no object, so that nothing is respelled in it
    | arr rs => cases h; exact .of_eq Outcome.SameAs.refl rfl
    | obj fields =>
      obtain ⟨fields', rfl, hfields⟩ := h.exists_obj
      exact ofFields_respelled hfields
    | _ => cases h; exact .error _

/-! ## Readings -/

/-- An outcome without what it is read from. -/
def Outcome.bare (o : Outcome) : Outcome := { o with changes := [], events := [], raw := .null }

/-- An outcome without what it is read from, and without the price of the gas. -/
def Outcome.unpriced (o : Outcome) : Outcome := { o.bare with gasPrice := 0 }

/-- A reading for an owner, without the data of the events. -/
def Analysis.bare (a : Analysis) : Analysis := { a with events := a.events.map Event.bare }

/-- A reading of all writes, without the data of the events. -/
def Summary.bare (s : Summary) : Summary := { s with events := s.events.map Event.bare }

section

variable {zero : Prop} {o o' : Outcome}

namespace Outcome.SameAs

theorem unpriced_eq (h : o.SameAs zero o') : o.unpriced = o'.unpriced := by
  simp only [unpriced, bare, h.success, h.status, h.gasUsed]

/-- The prices are the same, unless one is taken for none given. -/
theorem gasPrice_eq (h : o.SameAs zero o') (hzero : ¬zero) : o.gasPrice = o'.gasPrice :=
  h.gasPrice.resolve_right fun hfree => hzero hfree.1

theorem bare_eq (h : o.SameAs zero o') (hzero : ¬zero) : o.bare = o'.bare := by
  simp only [bare, h.success, h.status, h.gasUsed, h.gasPrice_eq hzero]

theorem parsedEvents_eq (h : o.SameAs zero o') :
    o.parsedEvents.map Event.bare = o'.parsedEvents.map Event.bare := by
  rw [parsedEvents, parsedEvents, List.map_map, List.map_map, ← List.forall₂_eq_eq_eq,
    List.forall₂_map_left_iff, List.forall₂_map_right_iff]
  exact h.events.imp fun _ _ => bare_ofFields

/-- An analysis is the same in both spellings, but for the data of events. -/
theorem analyze_alike (h : o.SameAs zero o') (tokens : List Token) (owner : String)
    (position : Option Position) : EndsAlike (fun a b => a.bare = b.bare)
      (analyze o tokens owner position) (analyze o' tokens owner position) := by
  have hbalances : extractBalances o tokens owner = extractBalances o' tokens owner := by
    simp only [extractBalances, balancesFrom_respelled h.changes]
  have hvault (p : Position) : extractVault o p = extractVault o' p := by
    simp only [extractVault, firstVaultChange_respelled h.changes]
  have hbare {balances : Balances} {vault : Option Vault} :
      Analysis.bare ⟨o.parsedEvents, balances, vault⟩ =
        Analysis.bare ⟨o'.parsedEvents, balances, vault⟩ := by
    simp only [Analysis.bare, h.parsedEvents_eq]
  refine EndsAlike.bind (R := Eq) (.of_eq (fun _ => rfl) hbalances) ?_
  rintro balances _ rfl
  cases position with
  | none => exact .ok hbare
  | some p =>
    refine EndsAlike.bind (R := Eq) (.of_eq (fun _ => rfl) (hvault p)) ?_
    rintro vault _ rfl
    exact .ok hbare

theorem writesOf_eq (h : o.SameAs zero o') (registry : Registry) (position : Option Position) :
    writesOf registry position o.changes = writesOf registry position o'.changes :=
  writesOf_respelled h.changes registry position

/-- A summary is the same in both spellings, where no price is the number zero. -/
theorem summarize_alike (h : o.SameAs zero o') (hzero : ¬zero) (registry : Registry)
    (position : Option Position) : EndsAlike (fun a b => a.bare = b.bare)
      (summarize o registry position) (summarize o' registry position) := by
  have hcost : o.gasCost = o'.gasCost := by
    rw [gasCost, gasCost, h.gasUsed, h.gasPrice_eq hzero]
  refine EndsAlike.bind (.of_eq (fun _ => rfl) (h.writesOf_eq registry position))
    fun writes _ hwrites => EndsAlike.bind (.of_eq (fun _ => rfl) hcost) fun cost _ hcost => .ok ?_
  simp only [Summary.bare, h.parsedEvents_eq, h.success, h.status, h.gasUsed, h.gasPrice_eq hzero,
    hwrites, hcost]

end Outcome.SameAs

end

/-- How far two responses are read as the same. -/
structure ReadsSame (r r' : Json) : Prop where
  /-- What the outcomes say of the transaction and its gas. -/
  outcome : (Outcome.ofResponse r).map Outcome.unpriced = (Outcome.ofResponse r').map Outcome.unpriced
  /-- What an owner has afterwards, and the amounts of the events. -/
  analysis : ∀ (tokens : List Token) (owner : String) (position : Option Position),
    (Outcome.ofResponse r >>= (analyze · tokens owner position)).map Analysis.bare =
      (Outcome.ofResponse r' >>= (analyze · tokens owner position)).map Analysis.bare
  /-- The writes of stores and positions. -/
  writes : ∀ (registry : Registry) (position : Option Position),
    (Outcome.ofResponse r >>= (writesOf registry position ·.changes)) =
      (Outcome.ofResponse r' >>= (writesOf registry position ·.changes))
  /-- Everything, the price and the cost of the gas included. -/
  priced : ¬IsFreeNumber r →
    (Outcome.ofResponse r).map Outcome.bare = (Outcome.ofResponse r').map Outcome.bare ∧
      ∀ (registry : Registry) (position : Option Position),
        (Outcome.ofResponse r >>= (summarize · registry position)).map Summary.bare =
          (Outcome.ofResponse r' >>= (summarize · registry position)).map Summary.bare
  /-- The only prices that differ: the one taken for none given, and zero. -/
  free : ∀ o o', Outcome.ofResponse r = .ok o → Outcome.ofResponse r' = .ok o' →
    o.gasPrice = o'.gasPrice ∨ (IsFreeNumber r ∧ o.gasPrice = defaultGasPrice ∧ o'.gasPrice = 0)

/-- **Integers are read the same as numbers and as texts**, but for a gas price of zero. -/
theorem reads_same {r r' : Json} (h : Respelled r r') : ReadsSame r r' where
  outcome := (ofResponse_respelled h).map_eq fun _ _ ho => ho.unpriced_eq
  analysis tokens owner position := EndsAlike.map_eq (f := Analysis.bare)
    ((ofResponse_respelled h).bind fun _ _ ho => ho.analyze_alike tokens owner position)
    fun _ _ ha => ha
  writes registry position := EndsAlike.eq ((ofResponse_respelled h).bind fun _ _ ho =>
    .of_eq (fun _ => rfl) (ho.writesOf_eq registry position))
  priced hfree := ⟨(ofResponse_respelled h).map_eq fun _ _ ho => ho.bare_eq hfree,
    fun registry position => EndsAlike.map_eq (f := Summary.bare)
      ((ofResponse_respelled h).bind fun _ _ ho => ho.summarize_alike hfree registry position)
      fun _ _ hs => hs⟩
  free o o' ho ho' := by
    have hsame := ofResponse_respelled h
    rw [ho, ho'] at hsame
    cases hsame with
    | ok hsame => exact hsame.gasPrice

/-! ## An answer in both spellings -/

/-- The write of a resource. -/
def writeOf (type : String) (resource : Json) : Json :=
  .obj [("type", .str "write_resource"), ("data", .obj [("type", .str type), ("data", resource)])]

theorem writeOf_respelled {type : String} {v w : Json} (h : ObjectsAgree ResourceField v w) :
    ObjectsAgree ChangeField (writeOf type v) (writeOf type w) :=
  objectsAgree_cons (Or.inl rfl) (objectsAgree_singleton
    ⟨rfl, objectsAgree_cons (Or.inl rfl) (objectsAgree_singleton ⟨rfl, h⟩)⟩)

/-- The store of an asset. -/
def storeOf (balance : Json) : Json :=
  .obj [("metadata", .obj [("inner", .str "0xb")]), ("balance", balance)]

/-- A position with one collateral and one liability. -/
def vaultOf (collateral principal : Json) : Json :=
  .obj [("collaterals", .obj [("data", .arr [.obj [("value", collateral)]])]),
    ("liabilities", .obj [("data", .arr [.obj [("value", .obj [("principal", principal)])]])])]

/-- An answer with an event, a store and a position, its integers given in one way or the other. -/
def repayment (spell : Int → Json) : Json :=
  .obj [("success", .bool true), ("gas_used", spell 50), ("gas_unit_price", spell 7),
    ("events", .arr [.obj [("type", .str "0xa::lending::Repaid"),
      ("data", .obj [("amount", spell 3)])]]),
    ("changes", .arr [writeOf "0x1::fungible_asset::FungibleStore" (storeOf (spell 97)),
      writeOf "0xa::lending::Vault" (vaultOf (spell 40) (spell 0))])]

theorem respelled_repayment : Respelled (repayment .int) (repayment spelled) := by
  have hstore : ObjectsAgree ResourceField (storeOf (.int 97)) (storeOf (spelled 97)) :=
    objectsAgree_cons (Or.inl rfl) (objectsAgree_singleton (Or.inl ⟨rfl, spelt_spelled (by decide)⟩))
  have htable {Entry : Json → Json → Prop} {v w : Json} (h : Entry v w) :
      ObjectsAgree (TableField Entry) (.obj [("data", .arr [v])]) (.obj [("data", .arr [w])]) :=
    objectsAgree_singleton ⟨rfl, .cons h .nil⟩
  have hvault : ObjectsAgree ResourceField (vaultOf (.int 40) (.int 0))
      (vaultOf (spelled 40) (spelled 0)) :=
    objectsAgree_cons
      (Or.inr (Or.inr (Or.inl ⟨rfl, htable (objectsAgree_singleton ⟨rfl, spelt_spelled (by decide)⟩)⟩)))
      (objectsAgree_singleton (Or.inr (Or.inr ⟨rfl, htable
        (objectsAgree_singleton ⟨rfl, objectsAgree_singleton ⟨rfl, spelt_spelled (by decide)⟩⟩)⟩)))
  have hevent : ObjectsAgree EventField
      (.obj [("type", .str "0xa::lending::Repaid"), ("data", .obj [("amount", .int 3)])])
      (.obj [("type", .str "0xa::lending::Repaid"), ("data", .obj [("amount", spelled 3)])]) :=
    objectsAgree_cons (Or.inl rfl)
      (objectsAgree_singleton ⟨rfl, objectsAgree_singleton ⟨rfl, spelt_spelled (by decide)⟩⟩)
  refine .answer (objectsAgree_cons (Or.inl rfl) ?_)
  refine objectsAgree_cons (Or.inr (Or.inl ⟨Or.inl rfl, spelt_spelled (by decide)⟩)) ?_
  refine objectsAgree_cons (Or.inr (Or.inl ⟨Or.inr rfl, spelt_spelled (by decide)⟩)) ?_
  refine objectsAgree_cons (Or.inr (Or.inr (Or.inr ⟨rfl, .cons hevent .nil⟩))) ?_
  refine objectsAgree_singleton (Or.inr (Or.inl ⟨rfl, ?_⟩))
  exact .cons (writeOf_respelled hstore) (.cons (writeOf_respelled hvault) .nil)

theorem reads_same_repayment : Respelled (repayment .int) (repayment spelled) ∧
    ReadsSame (repayment .int) (repayment spelled) ∧ ¬IsFreeNumber (repayment .int) :=
  ⟨respelled_repayment, reads_same respelled_repayment,
    by simp [IsFreeNumber, answerIn, repayment, Json.get, Json.get?, field?]⟩

/-- An answer that tells a price of the gas only. -/
def priceOnly (price : Json) : Json := .obj [("gas_unit_price", price)]

/-- A gas price that is the number zero is taken for none given, its text is not. -/
theorem zero_price_read_otherwise : Respelled (priceOnly (.int 0)) (priceOnly (.str "0")) ∧
    (Outcome.ofResponse (priceOnly (.int 0))).map Outcome.gasPrice = .ok 100 ∧
    (Outcome.ofResponse (priceOnly (.str "0"))).map Outcome.gasPrice = .ok 0 :=
  ⟨.answer (objectsAgree_singleton (Or.inl ⟨Or.inr rfl, spelt_spelled (by decide)⟩)), rfl, rfl⟩

end Simulation

end MovePlan
