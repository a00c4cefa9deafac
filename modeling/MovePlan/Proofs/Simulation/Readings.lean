import Mathlib.Data.List.Forall2
import MovePlan.Proofs.Flow.Run

/-!
# Two readings of one outcome

An outcome is read for an owner, whose balances and position are looked for among the changes, and it
is read for all its writes. Each reading goes through the changes on its own: the balances of the
owner's stores are replaced by later ones, the search for the position stops at the first change of
it, and the writes are listed, those of stores apart from those of positions.

What they have in common is what one change shows (`Shows`). The writes are what the changes show in
order (`exists_entries_of_writesOf`), and the reading for the owner can be had from the writes alone.
-/

namespace MovePlan

open Move

theorem Move.Address.canonical_eq_iff {a b : String} :
    Address.canonical a = Address.canonical b ↔ Address.same a b = true := by
  rw [Address.canonical, Address.canonical, String.ofList_inj, Address.same, beq_iff_eq]

namespace Simulation

/-! ## What one change shows -/

/-- What a change adds to the writes of an outcome. -/
inductive Entry where
  | balance (c : BalanceChange)
  | vault (v : VaultChange)

namespace Entry

def balance? : Entry → Option BalanceChange
  | balance c => some c
  | vault _ => none

def vault? : Entry → Option VaultChange
  | balance _ => none
  | vault v => some v

end Entry

/-- The writes that entries make, one or none for each change. -/
def Writes.ofEntries (entries : List (Option Entry)) : Writes where
  balances := entries.filterMap (·.bind Entry.balance?)
  vaults := entries.filterMap (·.bind Entry.vault?)

section

variable (registry : Registry) (position : Option Position)

/-- The entry that a change makes: that of a store, else that of a position, else none. -/
inductive Shows (change : Json.Fields) : Option Entry → Prop where
  | store (write : StoreWrite) (h : storeWrite? change = .ok (some write)) :
    Shows change (some (.balance ⟨addressOf change, symbolOf registry write.metadata,
      write.metadata, write.balance⟩))
  | vault (v : VaultChange) (hstore : storeWrite? change = .ok none)
      (h : vaultChange? position change = .ok (some v)) : Shows change (some (.vault v))
  | nothing (hstore : storeWrite? change = .ok none)
      (h : vaultChange? position change = .ok none) : Shows change none

end

variable {registry : Registry} {position : Option Position} {changes : List Json.Fields}
  {entries : List (Option Entry)} {writes : Writes}

/-- **The writes are what the changes show**, in order. -/
theorem exists_entries_of_writesOf (h : writesOf registry position changes = .ok writes) :
    ∃ entries, List.Forall₂ (Shows registry position) changes entries ∧
      writes = Writes.ofEntries entries := by
  induction changes generalizing writes with
  | nil =>
    obtain rfl := Except.ok.inj h
    exact ⟨[], .nil, rfl⟩
  | cons change rest ih =>
    obtain ⟨write, hstore, h⟩ := Error.bind_eq_ok_iff.1 h
    cases write with
    | some write =>
      obtain ⟨later, hlater, h⟩ := Error.bind_eq_ok_iff.1 h
      obtain rfl := Except.ok.inj h
      obtain ⟨entries, hentries, rfl⟩ := ih hlater
      exact ⟨_, .cons (.store write hstore) hentries, rfl⟩
    | none =>
      obtain ⟨vault, hvault, h⟩ := Error.bind_eq_ok_iff.1 h
      obtain ⟨later, hlater, h⟩ := Error.bind_eq_ok_iff.1 h
      obtain rfl := Except.ok.inj h
      obtain ⟨entries, hentries, rfl⟩ := ih hlater
      cases vault with
      | none => exact ⟨_, .cons (.nothing hstore hvault) hentries, rfl⟩
      | some v => exact ⟨_, .cons (.vault v hstore hvault) hentries, rfl⟩

/-! ## Balances -/

section

variable (owner : String) (tokens : List Token)

/-- Whether an address is that of the owner's store of a token. -/
def isStoreOf (address : String) (t : Token) : Bool :=
  match storeAddress owner t.metadata with
  | .ok store => Address.same address store
  | .error _ => false

/-- The token whose store an address is; of several the last. -/
def tokenAt? (address : String) : Option Token := tokens.reverse.find? (isStoreOf owner address)

/-- Keeps the balance of a change, if the change is of a store of the owner's. -/
def keep (acc : Balances) (c : BalanceChange) : Balances :=
  match tokenAt? owner tokens c.address with
  | some t => Balances.put t.metadata c.balance acc
  | none => acc

/-- The balances of the owner's stores among those of all stores. -/
def kept (balances : List BalanceChange) : Balances := balances.foldl (keep owner tokens) []

/-- The last balance of a store of an asset. -/
def lastOf? (balances : List BalanceChange) (asset : String) : Option Int :=
  (balances.reverse.find? fun c =>
    (tokenAt? owner tokens c.address).map Token.metadata == some asset).map BalanceChange.balance

end

variable {owner : String} {tokens : List Token} {stores : List (String × String)}

theorem storeAddress_of_valid {metadata : String} (ho : (Address.bytes? owner.toList).isSome)
    (hm : (Address.bytes? metadata.toList).isSome) :
    ∃ store, storeAddress owner metadata = .ok store := by
  obtain ⟨creator, hcreator⟩ := Option.isSome_iff_exists.1 ho
  obtain ⟨seed, hseed⟩ := Option.isSome_iff_exists.1 hm
  exact ⟨_, by rw [storeAddress, hseed, hcreator]⟩

theorem exists_expectedStores_eq_ok (ho : (Address.bytes? owner.toList).isSome)
    (h : ∀ t ∈ tokens, (Address.bytes? t.metadata.toList).isSome) :
    ∃ stores, expectedStores owner tokens = .ok stores := by
  induction tokens with
  | nil => exact ⟨[], rfl⟩
  | cons t rest ih =>
    obtain ⟨store, hstore⟩ := storeAddress_of_valid ho (h t List.mem_cons_self)
    obtain ⟨later, hlater⟩ := ih fun u hu => h u (List.mem_cons_of_mem t hu)
    exact ⟨_, Error.bind_eq_ok_iff.2 ⟨store, hstore, Error.bind_eq_ok_iff.2 ⟨later, hlater, rfl⟩⟩⟩

/-- The first asset that is no address has no store. -/
theorem expectedStores_eq_error {t : Token} (ho : (Address.bytes? owner.toList).isSome)
    (h : tokens.find? (fun t => (Address.bytes? t.metadata.toList).isNone) = some t) :
    expectedStores owner tokens = .error (.invalidAddress t.metadata) := by
  induction tokens with
  | nil => cases h
  | cons u rest ih =>
    rw [expectedStores]
    cases hu : Address.bytes? u.metadata.toList with
    | none =>
      obtain rfl : u = t := by simpa [hu] using h
      rw [storeAddress, hu]
      rfl
    | some seed =>
      obtain ⟨store, hstore⟩ := storeAddress_of_valid ho (Option.isSome_iff_exists.2 ⟨seed, hu⟩)
      rw [hstore, ih (by simpa [hu] using h)]
      rfl

theorem forall₂_of_expectedStores (h : expectedStores owner tokens = .ok stores) :
    List.Forall₂ (fun t s => ∃ store, storeAddress owner t.metadata = .ok store ∧
      s = (Address.canonical store, t.metadata)) tokens stores := by
  induction tokens generalizing stores with
  | nil =>
    obtain rfl := Except.ok.inj h
    exact .nil
  | cons t rest ih =>
    obtain ⟨store, hstore, h⟩ := Error.bind_eq_ok_iff.1 h
    obtain ⟨later, hlater, h⟩ := Error.bind_eq_ok_iff.1 h
    obtain rfl := Except.ok.inj h
    exact .cons ⟨store, hstore, rfl⟩ (ih hlater)

/-- An address is looked up among the stores as that of a token. -/
theorem assetAt?_eq (h : expectedStores owner tokens = .ok stores) (address : String) :
    assetAt? stores address = (tokenAt? owner tokens address).map Token.metadata := by
  -- of two tokens with one store the last counts, so the search begins at the end
  have hrev := List.rel_reverse (forall₂_of_expectedStores h)
  rw [assetAt?, tokenAt?]
  generalize tokens.reverse = ts at hrev ⊢
  generalize stores.reverse = ss at hrev ⊢
  induction hrev with
  | nil => rfl
  | @cons t s ts ss hts _ ih =>
    obtain ⟨store, hstore, rfl⟩ := hts
    have hsame : (Address.canonical address == Address.canonical store) =
        isStoreOf owner address t := by
      rw [isStoreOf, hstore, Bool.eq_iff_iff, beq_iff_eq, Address.canonical_eq_iff]
    rw [List.lookup_cons, hsame, List.find?_cons, ih]
    cases isStoreOf owner address t <;> rfl

/-- The writes of stores say all that there is about the owner's balances. -/
theorem balancesFrom_eq (h : expectedStores owner tokens = .ok stores)
    (hentries : List.Forall₂ (Shows registry position) changes entries) (acc : Balances) :
    balancesFrom stores changes acc =
      .ok ((Writes.ofEntries entries).balances.foldl (keep owner tokens) acc) := by
  induction hentries generalizing acc with
  | nil => rfl
  | @cons change entry rest entries hshows _ ih =>
    cases hshows with
    | store write hstore =>
      have hasset := assetAt?_eq h (addressOf change)
      have hcons : ∀ b : BalanceChange, (Writes.ofEntries (some (.balance b) :: entries)).balances =
          b :: (Writes.ofEntries entries).balances := fun _ => rfl
      rw [hcons, List.foldl_cons, ← ih, keep]
      -- both look the address up, the one among the stores, the other among the tokens
      cases ht : tokenAt? owner tokens (addressOf change) with
      | none =>
        rw [ht] at hasset
        exact balancesFrom_cons_of_untracked hstore hasset rest acc
      | some t =>
        rw [ht] at hasset
        exact balancesFrom_cons_of_some hstore hasset rest acc
    | vault v hstore => rw [balancesFrom_cons_of_none hstore, ih]; rfl
    | nothing hstore => rw [balancesFrom_cons_of_none hstore, ih]; rfl

theorem get?_keep (acc : Balances) (c : BalanceChange) (asset : String) :
    (keep owner tokens acc c).get? asset =
      if (tokenAt? owner tokens c.address).map Token.metadata == some asset then some c.balance
      else acc.get? asset := by
  rw [keep]
  cases tokenAt? owner tokens c.address with
  | none => rfl
  | some t =>
    by_cases ht : t.metadata = asset
    · simp [ht, Balances.get?_put_self]
    · simp [ht, Balances.get?_put_of_ne (Ne.symm ht)]

/-- Of several balances of an asset the last is kept. -/
theorem get?_foldl_keep (balances : List BalanceChange) (acc : Balances) (asset : String) :
    (balances.foldl (keep owner tokens) acc).get? asset =
      (lastOf? owner tokens balances asset).or (acc.get? asset) := by
  induction balances generalizing acc with
  | nil => rfl
  | cons c rest ih =>
    rw [List.foldl_cons, ih, get?_keep, lastOf?, lastOf?, List.reverse_cons, List.find?_append,
      Option.map_or, Option.or_assoc, List.find?_singleton]
    split <;> rfl

/-! ## A position -/

/-- Whether a position's type is that of stores. -/
def Position.IsStore (p : Position) : Prop :=
  Address.same p.protocol frameworkAddress = true ∧ p.resource = storePath

/-- The write of a store is that of a resource of the type of stores. -/
theorem isStoreType_of_storeWrite? {change : Json.Fields} {write : StoreWrite}
    (h : storeWrite? change = .ok (some write)) :
    kindOf change = some "write_resource" ∧
      ∃ type, resourceType? change = some type ∧ isStoreType type = true := by
  rw [storeWrite?] at h
  split at h
  next => cases h
  next metadata balance hfields =>
    rw [storeFields?] at hfields
    split at hfields
    next => cases hfields
    next hkind =>
      split at hfields
      next => cases hfields
      next hany =>
        refine ⟨not_not.1 hkind, ?_⟩
        simpa [Option.any_eq_true] using hany

/-- A position whose type stores have is of the type of stores. -/
theorem isStore_of_matches {p : Position} {type : String} (hstore : isStoreType type = true)
    (hm : p.matches type = true) : p.IsStore := by
  rw [isStoreType] at hstore
  rw [Position.matches] at hm
  cases hsplit : TypeName.splitAddress? type with
  | none => simp [hsplit] at hm
  | some parts =>
    obtain ⟨address, path⟩ := parts
    simp only [hsplit, Bool.and_eq_true, beq_iff_eq] at hstore hm
    obtain ⟨hframework, rfl⟩ := hstore
    obtain ⟨hprotocol, hpath⟩ := hm
    rw [← Address.canonical_eq_iff] at hframework hprotocol
    refine ⟨Address.canonical_eq_iff.1 (hprotocol.symm.trans hframework), ?_⟩
    exact hpath.symm

/-- What is written to a store is not written to a position. -/
theorem vaultChange?_of_store {p : Position} (hp : ¬p.IsStore) {change : Json.Fields}
    {write : StoreWrite} (h : storeWrite? change = .ok (some write)) :
    vaultChange? (some p) change = .ok none := by
  obtain ⟨hkind, type, htype, hstore⟩ := isStoreType_of_storeWrite? h
  have hmatch : p.matches type = false :=
    Bool.eq_false_iff.2 fun hm => hp (isStore_of_matches hstore hm)
  rw [vaultChange?, hkind]
  simp [htype, isPositionType, hmatch]

theorem firstVaultChange_eq {p : Position} (hp : ¬p.IsStore)
    (hentries : List.Forall₂ (Shows registry (some p)) changes entries) :
    firstVaultChange (some p) changes = .ok (Writes.ofEntries entries).vaults.head? := by
  induction hentries with
  | nil => rfl
  | @cons change entry rest entries hshows _ ih =>
    rw [firstVaultChange]
    cases hshows with
    | store write hstore =>
      rw [vaultChange?_of_store hp hstore]
      exact ih
    | vault v hstore hvault => rw [hvault]; rfl
    | nothing hstore hvault =>
      rw [hvault]
      exact ih

/-! ## The reading for an owner from the writes -/

/-- What the reading for an owner and a position has to do with the writes of the same outcome. -/
structure ReadsAlike (o : Outcome) (registry : Registry) (tokens : List Token) (owner : String)
    (p : Position) (writes : Writes) : Prop where
  /-- Each change makes at most one entry, of a store or of a position. -/
  entries : ∃ entries, List.Forall₂ (Shows registry (some p)) o.changes entries ∧
    writes = Writes.ofEntries entries
  /-- The balances are those of the owner's stores among the writes. -/
  balances : (∀ t ∈ tokens, (Address.bytes? t.metadata.toList).isSome) →
    extractBalances o tokens owner = .ok (kept owner tokens writes.balances)
  /-- Of several balances of an asset the last counts. -/
  last : ∀ asset, (kept owner tokens writes.balances).get? asset =
    lastOf? owner tokens writes.balances asset
  /-- An asset that is no address has no store. -/
  refused : ∀ t, tokens.find? (fun t => (Address.bytes? t.metadata.toList).isNone) = some t →
    extractBalances o tokens owner = .error (.invalidAddress t.metadata)
  /-- The position is as its first change leaves it. -/
  vault : extractVault o p =
    .ok (writes.vaults.head?.map fun v => ⟨v.collateral, v.debt, v.present, p.market⟩)

/-- **Both readings are of the same outcome**: what is read for an owner can be had from the list of
all writes, if there is one. -/
theorem reads_alike {o : Outcome} {registry : Registry} {tokens : List Token} {owner : String}
    {p : Position} {summary : Summary} (ho : (Address.bytes? owner.toList).isSome)
    (hp : ¬p.IsStore) (h : summarize o registry (some p) = .ok summary) :
    ReadsAlike o registry tokens owner p summary.writes := by
  obtain ⟨writes, hwrites, h⟩ := Error.bind_eq_ok_iff.1 h
  obtain ⟨gasCost, -, h⟩ := Error.bind_eq_ok_iff.1 h
  obtain rfl := Except.ok.inj h
  obtain ⟨entries, hentries, rfl⟩ := exists_entries_of_writesOf hwrites
  refine ⟨⟨entries, hentries, rfl⟩, fun htokens => ?_, fun asset => ?_, fun t ht => ?_, ?_⟩
  · obtain ⟨stores, hstores⟩ := exists_expectedStores_eq_ok ho htokens
    exact Error.bind_eq_ok_iff.2 ⟨stores, hstores, balancesFrom_eq hstores hentries []⟩
  · rw [kept, get?_foldl_keep, Balances.get?, Option.or_none]
  · rw [extractBalances, expectedStores_eq_error ho ht]
    rfl
  · exact Error.bind_eq_ok_iff.2 ⟨_, firstVaultChange_eq hp hentries, rfl⟩

/-- The first response to the repayments shows the payer's store, and the position that is tracked. -/
theorem reads_alike_repaying : ∃ o summary,
    Outcome.ofResponse (Flow.response 0) = .ok o ∧
    (Address.bytes? Flow.repaying.owner.toList).isSome ∧ ¬Flow.market.IsStore ∧
    summarize o [] (some Flow.market) = .ok summary ∧
    ReadsAlike o [] Flow.repaying.tokens Flow.repaying.owner Flow.market summary.writes ∧
    kept Flow.repaying.owner Flow.repaying.tokens summary.writes.balances = [("0xc1", 70)] := by
  obtain ⟨o, ho, hchanges, summary, hsummary⟩ : ∃ o, Outcome.ofResponse (Flow.response 0) = .ok o ∧
      o.changes = [Flow.debtWrite "100", Flow.purseWrite] ∧
        ∃ summary, summarize o [] (some Flow.market) = .ok summary := ⟨_, rfl, rfl, _, rfl⟩
  have howner : (Address.bytes? Flow.repaying.owner.toList).isSome := rfl
  have hmarket : ¬Flow.market.IsStore := by simp [Position.IsStore, Flow.market, storePath]
  have hreads : ReadsAlike o [] Flow.repaying.tokens Flow.repaying.owner Flow.market
      summary.writes := reads_alike howner hmarket hsummary
  have hbalances := hreads.balances (List.forall_mem_singleton.2 rfl)
  rw [Flow.extractBalances_first hchanges] at hbalances
  exact ⟨o, summary, ho, howner, hmarket, hsummary, hreads, (Except.ok.inj hbalances).symm⟩

end Simulation

end MovePlan
