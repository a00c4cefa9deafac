import MovePlan.Proofs.Simulation.Faults
import MovePlan.Proofs.Simulation.StoreAddress
import MovePlan.Proofs.Simulation.StoreWrites

/-!
# Balances of an owner's stores

The balances that are read of an outcome for an owner are those that the last writes of the owner's
stores leave. Of two tokens with one store the later counts (`IsLastWithStore`), of two writes at one
store the later too (`LastBalance`).

A write of a store whose balance is no integer is refused wherever it is; else writes of other stores
make no difference (`extractBalances_shows`).
-/

namespace MovePlan

open Move Error Plan

namespace Simulation

/-! ## The last token with a store, and the last write at it -/

/-- A token that is the last of the list with its store. -/
structure IsLastWithStore (owner : String) (tokens : List Token) (t : Token) (store : String) :
    Prop where
  address : storeAddress owner t.metadata = .ok store
  last : ∃ before after, tokens = before ++ t :: after ∧ ∀ u ∈ after, ∀ other,
    storeAddress owner u.metadata = .ok other → Address.same other store = false

/-- Whether a store at an address is written. -/
def IsWritten (changes : List Json.Fields) (store : String) : Prop :=
  ∃ change ∈ changes, Address.same (addressOf change) store = true ∧
    ∃ metadata balance, IsStoreWrite change metadata balance

/-- The integer that the last write of a store at an address leaves there. -/
def LastBalance (changes : List Json.Fields) (store : String) (n : Int) : Prop :=
  ∃ before change after metadata balance, changes = before ++ change :: after ∧
    Address.same (addressOf change) store = true ∧ IsStoreWrite change metadata balance ∧
    balance.IsInteger n ∧
    ∀ later ∈ after, Address.same (addressOf later) store = true →
      ∀ metadata balance, ¬IsStoreWrite later metadata balance

variable {owner address store asset : String} {tokens : List Token} {t : Token}
  {change : Json.Fields} {changes : List Json.Fields}

theorem LastBalance.isWritten {n : Int} (h : LastBalance changes store n) : IsWritten changes store := by
  obtain ⟨before, change, after, metadata, balance, rfl, hsame, hwrite, -⟩ := h
  exact ⟨change, by simp, hsame, metadata, balance, hwrite⟩

/-- Of a store that is written a balance is left, if all writes are read. -/
theorem IsWritten.exists_lastBalance (h : IsWritten changes store)
    (hread : ∀ change ∈ changes, ∃ write, storeWrite? change = .ok write) :
    ∃ n, LastBalance changes store n := by
  induction changes with
  | nil =>
    obtain ⟨change, hmem, -⟩ := h
    cases hmem
  | cons change rest ih =>
    obtain ⟨⟨write, hwrite⟩, hrest⟩ := List.forall_mem_cons.1 hread
    by_cases hlater : IsWritten rest store
    · obtain ⟨n, before, last, after, metadata, balance, rfl, htells⟩ := ih hlater hrest
      exact ⟨n, change :: before, last, after, metadata, balance, rfl, htells⟩
    · -- there is no write after this one
      obtain ⟨other, hmem, hsame, metadata, balance, hstore⟩ := h
      rcases List.mem_cons.1 hmem with rfl | hmem
      · obtain ⟨n, hn⟩ := hstore.exists_isInteger hwrite
        exact ⟨n, [], other, rest, metadata, balance, rfl, hsame, hstore, hn,
          fun later hmem hsame metadata balance hstore =>
            hlater ⟨later, hmem, hsame, metadata, balance, hstore⟩⟩
      · exact absurd ⟨other, hmem, hsame, metadata, balance, hstore⟩ hlater

theorem isStoreOf_iff : isStoreOf owner address t = true ↔
    ∃ store, storeAddress owner t.metadata = .ok store ∧ Address.same address store = true := by
  rw [isStoreOf]
  cases storeAddress owner t.metadata <;> simp

/-- Two addresses that are the same as a third are the same. -/
theorem same_of_same {a b c : String} (ha : Address.same c a = true) (hb : Address.same c b = true) :
    Address.same a b = true :=
  Address.canonical_eq_iff.1
    ((Address.canonical_eq_iff.2 ha).symm.trans (Address.canonical_eq_iff.2 hb))

theorem same_comm {a b : String} : Address.same a b = Address.same b a := by
  rw [Address.same, Address.same, Bool.beq_comm]

/-- The token whose store an address is, is the last with that store. -/
theorem tokenAt?_eq_some_iff : tokenAt? owner tokens address = some t ↔
    ∃ store, IsLastWithStore owner tokens t store ∧ Address.same address store = true := by
  rw [tokenAt?, List.find?_eq_some_iff_append]
  constructor
  · rintro ⟨hstore, after, before, hrev, hafter⟩
    obtain ⟨store, haddress, hsame⟩ := isStoreOf_iff.1 hstore
    refine ⟨store, ⟨haddress, before.reverse, after.reverse, ?_, fun u hu other hother => ?_⟩, hsame⟩
    · rw [← List.reverse_inj, hrev]
      simp
    · -- a later token with the store would have been found
      rw [Bool.eq_false_iff]
      intro hbad
      have hnot := hafter u (List.mem_reverse.1 hu)
      rw [isStoreOf_iff.2 ⟨other, hother, same_of_same (same_comm ▸ hsame) (same_comm ▸ hbad)⟩] at hnot
      cases hnot
  · rintro ⟨store, ⟨haddress, before, after, rfl, hafter⟩, hsame⟩
    refine ⟨isStoreOf_iff.2 ⟨store, haddress, hsame⟩, after.reverse, before.reverse, by simp, ?_⟩
    intro u hu
    rw [Bool.not_eq_true', Bool.eq_false_iff]
    intro hbad
    obtain ⟨other, hother, hsame'⟩ := isStoreOf_iff.1 hbad
    have hnot := hafter u (List.mem_reverse.1 hu) other hother
    rw [same_of_same hsame' hsame] at hnot
    cases hnot

/-- The balance of an asset that a change shows. -/
def shownBalance? (owner : String) (tokens : List Token) (asset : String) (change : Json.Fields) :
    Option Int :=
  match storeWrite? change with
  | .ok (some write) =>
    if (tokenAt? owner tokens (addressOf change)).map Token.metadata = some asset then
      some write.balance
    else none
  | _ => none

/-- A change shows the balance of an asset if it is the write of the store of the last token with
that store. -/
theorem shownBalance?_eq_some_iff {n : Int} : shownBalance? owner tokens asset change = some n ↔
    ∃ t store metadata balance, IsLastWithStore owner tokens t store ∧ t.metadata = asset ∧
      Address.same (addressOf change) store = true ∧ IsStoreWrite change metadata balance ∧
      balance.IsInteger n := by
  rw [shownBalance?]
  constructor
  · intro h
    split at h
    next write hwrite =>
      split at h
      next hasset =>
        obtain rfl := Option.some.inj h
        obtain ⟨t, ht, rfl⟩ := Option.map_eq_some_iff.1 hasset
        obtain ⟨store, hlast, hsame⟩ := tokenAt?_eq_some_iff.1 ht
        obtain ⟨balance, hwrite, hn⟩ := storeWrite?_eq_some_iff.1 hwrite
        exact ⟨t, store, write.metadata, balance, hlast, rfl, hsame, hwrite, hn⟩
      · cases h
    · cases h
  · rintro ⟨t, store, metadata, balance, hlast, rfl, hsame, hwrite, hn⟩
    have hread : storeWrite? change = .ok (some ⟨metadata, n⟩) :=
      storeWrite?_eq_some_iff.2 ⟨balance, hwrite, hn⟩
    have htoken := tokenAt?_eq_some_iff.2 ⟨store, hlast, hsame⟩
    rw [hread, htoken]
    simp

/-- Of the balances of an asset that changes show the last is taken. -/
theorem get?_of_balancesFrom {stores : List (String × String)} {changes : List Json.Fields}
    {acc b : Balances} (hstores : expectedStores owner tokens = .ok stores)
    (h : balancesFrom stores changes acc = .ok b) (asset : String) :
    b.get? asset = (changes.reverse.findSome? (shownBalance? owner tokens asset)).or
      (acc.get? asset) := by
  induction changes generalizing acc with
  | nil =>
    obtain rfl := Except.ok.inj h
    rfl
  | cons change rest ih =>
    obtain ⟨write, hwrite, -⟩ := bind_eq_ok_iff.1 h
    have hasset := assetAt?_eq hstores (addressOf change)
    rw [List.reverse_cons, List.findSome?_append, Option.or_assoc, List.findSome?_singleton]
    cases write with
    | none =>
      rw [balancesFrom_cons_of_none hwrite] at h
      rw [ih h, shownBalance?, hwrite, Option.none_or]
    | some write =>
      cases ht : tokenAt? owner tokens (addressOf change) with
      | none =>
        rw [ht] at hasset
        rw [balancesFrom_cons_of_untracked hwrite hasset] at h
        rw [ih h, shownBalance?, hwrite, ht]
        simp
      | some t =>
        rw [ht] at hasset
        rw [balancesFrom_cons_of_some hwrite hasset] at h
        rw [ih h, shownBalance?, hwrite, ht]
        by_cases hm : t.metadata = asset
        · simp [hm, Balances.get?_put_self]
        · simp [hm, Balances.get?_put_of_ne (Ne.symm hm)]

/-! ## What is refused -/

variable {stores : List (String × String)}

/-- Where there are stores, the owner and every asset are addresses. -/
theorem forall_isSome_of_expectedStores (h : expectedStores owner tokens = .ok stores) :
    ∀ t ∈ tokens, (Address.bytes? owner.toList).isSome ∧
      (Address.bytes? t.metadata.toList).isSome := by
  induction tokens generalizing stores with
  | nil => simp
  | cons t rest ih =>
    obtain ⟨store, hstore, h⟩ := bind_eq_ok_iff.1 h
    obtain ⟨later, hlater, -⟩ := bind_eq_ok_iff.1 h
    exact List.forall_mem_cons.2 ⟨isSome_of_storeAddress hstore, ih hlater⟩

/-- What is refused of the stores is an address, the owner's or an asset's. -/
theorem expectedStores_refused : FailsBy (fun e => tokens ≠ [] ∧
    ∃ text ∈ owner :: tokens.map Token.metadata, Address.bytes? text.toList = none ∧
      e = .invalidAddress text) (expectedStores owner tokens) := by
  induction tokens with
  | nil => exact .ok _
  | cons t rest ih =>
    refine FailsBy.bind (fun e he => ?_) fun _ _ => FailsBy.bind (ih.imp fun e he => ?_) fun _ _ => .ok _
    · refine ⟨List.cons_ne_nil t rest, ?_⟩
      rcases storeAddress_eq_error_iff.1 he with ⟨hm, rfl⟩ | ⟨-, ho, rfl⟩
      · exact ⟨t.metadata, by simp, hm, rfl⟩
      · exact ⟨owner, by simp, ho, rfl⟩
    · obtain ⟨-, text, htext, hnone, rfl⟩ := he
      refine ⟨List.cons_ne_nil t rest, text, ?_, hnone, rfl⟩
      rcases List.mem_cons.1 htext with rfl | hmem
      · exact List.mem_cons_self
      · exact List.mem_cons_of_mem owner (List.mem_cons_of_mem t.metadata hmem)

/-- An error that tells of the write of a store among the changes, and of its balance. -/
def TellsOfBalance (changes : List Json.Fields) (e : Error) : Prop :=
  ∃ change ∈ changes, ∃ metadata balance, IsStoreWrite change metadata balance ∧
    (∀ n, ¬balance.IsInteger n) ∧
    (e = .notInteger "store balance" balance ∨ e = .booleanInteger "store balance")

theorem storeWrite?_refused (hmem : change ∈ changes) :
    FailsBy (TellsOfBalance changes) (storeWrite? change) := by
  intro e he
  obtain ⟨metadata, balance, hwrite, hnone⟩ := storeWrite?_eq_error_iff.1 ⟨e, he⟩
  refine ⟨change, hmem, metadata, balance, hwrite, hnone, ?_⟩
  rw [storeWrite?_of_write hwrite] at he
  cases hread : Json.amount "store balance" 0 balance with
  | ok n => exact absurd ((Json.amount_eq_ok_iff hwrite.ne_null).1 hread) (hnone n)
  | error e' =>
    rw [hread] at he
    obtain rfl := Except.error.inj he
    exact Json.amount_eq_error hread

theorem balancesFrom_refused (acc : Balances) :
    FailsBy (TellsOfBalance changes) (balancesFrom stores changes acc) := by
  suffices hall : ∀ rest, (∀ change ∈ rest, change ∈ changes) → ∀ acc,
      FailsBy (TellsOfBalance changes) (balancesFrom stores rest acc) from
    hall changes (fun _ h => h) acc
  intro rest
  induction rest with
  | nil => exact fun _ _ => .ok _
  | cons change rest ih =>
    intro hsub acc
    obtain ⟨hmem, hrest⟩ := List.forall_mem_cons.1 hsub
    refine (storeWrite?_refused hmem).bind fun write _ => ?_
    cases write with
    | none => exact ih hrest acc
    | some write =>
      dsimp only
      split
      · exact ih hrest acc
      · exact ih hrest _

/-- Whether an address is that of a store of the owner's. -/
def isOwn (owner : String) (tokens : List Token) (change : Json.Fields) : Bool :=
  tokens.any (isStoreOf owner (addressOf change))

/-- Changes at other addresses than those of the owner's stores make no difference. -/
theorem balancesFrom_filter (hstores : expectedStores owner tokens = .ok stores)
    (h : ∀ change ∈ changes, ∃ write, storeWrite? change = .ok write) (acc : Balances) :
    balancesFrom stores (changes.filter (isOwn owner tokens)) acc =
      balancesFrom stores changes acc := by
  induction changes generalizing acc with
  | nil => rfl
  | cons change rest ih =>
    obtain ⟨⟨write, hwrite⟩, hrest⟩ := List.forall_mem_cons.1 h
    by_cases hown : isOwn owner tokens change = true
    · rw [List.filter_cons_of_pos hown]
      cases write with
      | none => rw [balancesFrom_cons_of_none hwrite, balancesFrom_cons_of_none hwrite, ih hrest]
      | some write =>
        cases hasset : assetAt? stores (addressOf change) with
        | none =>
          rw [balancesFrom_cons_of_untracked hwrite hasset,
            balancesFrom_cons_of_untracked hwrite hasset, ih hrest]
        | some asset =>
          rw [balancesFrom_cons_of_some hwrite hasset, balancesFrom_cons_of_some hwrite hasset,
            ih hrest]
    · rw [List.filter_cons_of_neg hown, ih hrest]
      cases write with
      | none => rw [balancesFrom_cons_of_none hwrite]
      | some write =>
        have hnone : tokenAt? owner tokens (addressOf change) = none := by
          rw [tokenAt?, List.find?_eq_none]
          intro t ht hbad
          exact hown (List.any_eq_true.2 ⟨t, List.mem_reverse.1 ht, hbad⟩)
        have hasset := assetAt?_eq hstores (addressOf change)
        rw [hnone] at hasset
        rw [balancesFrom_cons_of_untracked hwrite hasset]

/-! ## What is read -/

variable {o : Outcome} {b : Balances}

/-- The balance of an asset is what the last write of its store leaves. -/
theorem get?_eq_some_iff_lastBalance (h : extractBalances o tokens owner = .ok b) {n : Int} :
    b.get? asset = some n ↔ ∃ t store, IsLastWithStore owner tokens t store ∧ t.metadata = asset ∧
      LastBalance o.changes store n := by
  obtain ⟨stores, hstores, h⟩ := bind_eq_ok_iff.1 h
  have hwrites := exists_storeWrite?_eq_ok h
  rw [get?_of_balancesFrom hstores h, Balances.get?, Option.or_none, List.findSome?_eq_some_iff]
  constructor
  · rintro ⟨after, change, before, hrev, hshown, hafter⟩
    obtain ⟨t, store, metadata, balance, hlast, hasset, hsame, hwrite, hn⟩ :=
      shownBalance?_eq_some_iff.1 hshown
    refine ⟨t, store, hlast, hasset, before.reverse, change, after.reverse, metadata, balance, ?_,
      hsame, hwrite, hn, ?_⟩
    · rw [← List.reverse_inj, hrev]
      simp
    · -- a later write of the store would show its balance
      intro later hlater hsame' metadata' balance' hwrite'
      have hmem : later ∈ o.changes := by
        rw [← List.mem_reverse, hrev]
        exact List.mem_append_left _ (List.mem_reverse.1 hlater)
      obtain ⟨write, hread⟩ := hwrites later hmem
      obtain ⟨n', hn'⟩ := hwrite'.exists_isInteger hread
      have hshown' := shownBalance?_eq_some_iff.2
        ⟨t, store, metadata', balance', hlast, hasset, hsame', hwrite', hn'⟩
      rw [hafter later (List.mem_reverse.1 hlater)] at hshown'
      cases hshown'
  · rintro ⟨t, store, hlast, hasset, before, change, after, metadata, balance, hchanges, hsame, hwrite,
      hn, hafter⟩
    refine ⟨after.reverse, change, before.reverse, by simp [hchanges], ?_, ?_⟩
    · exact shownBalance?_eq_some_iff.2
        ⟨t, store, metadata, balance, hlast, hasset, hsame, hwrite, hn⟩
    · intro later hlater
      by_contra hshown
      obtain ⟨n', hshown⟩ := Option.ne_none_iff_exists'.1 hshown
      obtain ⟨t', store', metadata', balance', hlast', hasset', hsame', hwrite', -⟩ :=
        shownBalance?_eq_some_iff.1 hshown
      -- one asset has one store
      have hstore := hlast'.address
      rw [hasset', ← hasset, hlast.address] at hstore
      obtain rfl := Except.ok.inj hstore
      exact hafter later (List.mem_reverse.1 hlater) hsame' metadata' balance' hwrite'

/-- There is a balance of the assets whose store is written. -/
theorem mem_assets_iff_isWritten (h : extractBalances o tokens owner = .ok b) :
    asset ∈ b.assets ↔ ∃ t store, IsLastWithStore owner tokens t store ∧ t.metadata = asset ∧
      IsWritten o.changes store := by
  rw [← Balances.exists_get?_iff]
  constructor
  · rintro ⟨n, hn⟩
    obtain ⟨t, store, hlast, hasset, hbalance⟩ := (get?_eq_some_iff_lastBalance h).1 hn
    exact ⟨t, store, hlast, hasset, hbalance.isWritten⟩
  · rintro ⟨t, store, hlast, hasset, hwritten⟩
    obtain ⟨stores, -, hread⟩ := bind_eq_ok_iff.1 h
    obtain ⟨n, hbalance⟩ := hwritten.exists_lastBalance (exists_storeWrite?_eq_ok hread)
    exact ⟨n, (get?_eq_some_iff_lastBalance h).2 ⟨t, store, hlast, hasset, hbalance⟩⟩

/-- What an outcome shows of an owner's balances. -/
structure ShowsOwnStores (o : Outcome) (tokens : List Token) (owner : String) : Prop where
  /-- It is refused exactly if the owner or an asset is no address, where there are tokens at all, or
  if the balance in any write of a store is no integer. -/
  refused : (∃ e, extractBalances o tokens owner = .error e) ↔
    (tokens ≠ [] ∧ (Address.bytes? owner.toList = none ∨
      ∃ t ∈ tokens, Address.bytes? t.metadata.toList = none)) ∨
    ∃ change ∈ o.changes, ∃ metadata balance, IsStoreWrite change metadata balance ∧
      ∀ n, ¬balance.IsInteger n
  /-- The error names the text that is no address, or the balance that is no integer. -/
  reason : ∀ e, extractBalances o tokens owner = .error e →
    (∃ text ∈ owner :: tokens.map Token.metadata, Address.bytes? text.toList = none ∧
      e = .invalidAddress text) ∨ TellsOfBalance o.changes e
  /-- No asset is there twice. -/
  nodup : ∀ b, extractBalances o tokens owner = .ok b → b.assets.Nodup
  /-- The assets are those of the tokens that are the last with their store, if it is written. -/
  assets : ∀ b asset, extractBalances o tokens owner = .ok b →
    (asset ∈ b.assets ↔ ∃ t store, IsLastWithStore owner tokens t store ∧ t.metadata = asset ∧
      IsWritten o.changes store)
  /-- Each has the balance that the last write of its store leaves. -/
  balance : ∀ b asset n, extractBalances o tokens owner = .ok b →
    (b.get? asset = some n ↔ ∃ t store, IsLastWithStore owner tokens t store ∧
      t.metadata = asset ∧ LastBalance o.changes store n)
  /-- Without the changes at other addresses the balances are the same. -/
  own : ∀ b, extractBalances o tokens owner = .ok b →
    extractBalances { o with changes := o.changes.filter (isOwn owner tokens) } tokens owner = .ok b

/-- **Balances come from the owner's stores only.** -/
theorem extractBalances_shows (o : Outcome) (tokens : List Token) (owner : String) :
    ShowsOwnStores o tokens owner := by
  have hreason : FailsBy (fun e => (tokens ≠ [] ∧ ∃ text ∈ owner :: tokens.map Token.metadata,
      Address.bytes? text.toList = none ∧ e = .invalidAddress text) ∨ TellsOfBalance o.changes e)
      (extractBalances o tokens owner) :=
    (expectedStores_refused.imp fun _ => Or.inl).bind fun stores _ =>
      (balancesFrom_refused []).imp fun _ => Or.inr
  refine ⟨⟨?_, ?_⟩, ?_, fun b => extractBalances_nodup, fun b asset => mem_assets_iff_isWritten,
    fun b asset n h => get?_eq_some_iff_lastBalance h, ?_⟩
  · rintro ⟨e, he⟩
    rcases hreason e he with ⟨hne, text, htext, hnone, -⟩ |
      ⟨change, hchange, metadata, balance, hwrite, hnone, -⟩
    · refine Or.inl ⟨hne, ?_⟩
      rcases List.mem_cons.1 htext with rfl | hmem
      · exact Or.inl hnone
      · obtain ⟨t, ht, rfl⟩ := List.mem_map.1 hmem
        exact Or.inr ⟨t, ht, hnone⟩
    · exact Or.inr ⟨change, hchange, metadata, balance, hwrite, hnone⟩
  · intro hrefused
    cases hread : extractBalances o tokens owner with
    | error e => exact ⟨e, rfl⟩
    | ok b =>
      obtain ⟨stores, hstores, hread⟩ := bind_eq_ok_iff.1 hread
      have hsome := forall_isSome_of_expectedStores hstores
      rcases hrefused with ⟨hne, hnone⟩ | ⟨change, hchange, hwrite⟩
      · rcases hnone with hnone | ⟨t, ht, hnone⟩
        · obtain ⟨t, ht⟩ := List.exists_mem_of_ne_nil tokens hne
          exact absurd hnone (Option.isSome_iff_ne_none.1 (hsome t ht).1)
        · exact absurd hnone (Option.isSome_iff_ne_none.1 (hsome t ht).2)
      · obtain ⟨e, he⟩ := storeWrite?_eq_error_iff.2 hwrite
        obtain ⟨write, hok⟩ := exists_storeWrite?_eq_ok hread change hchange
        rw [he] at hok
        cases hok
  · intro e he
    rcases hreason e he with ⟨-, haddress⟩ | hbalance
    · exact Or.inl haddress
    · exact Or.inr hbalance
  · intro b h
    obtain ⟨stores, hstores, h⟩ := bind_eq_ok_iff.1 h
    refine bind_eq_ok_iff.2 ⟨stores, hstores, ?_⟩
    rw [balancesFrom_filter hstores (exists_storeWrite?_eq_ok h), h]

/-- In the first response to the repayments the last write of the payer's store leaves 70. -/
theorem extractBalances_shows_repaying : ∃ o, Outcome.ofResponse (Flow.response 0) = .ok o ∧
    ∃ t store, IsLastWithStore Flow.repaying.owner Flow.repaying.tokens t store ∧
      t.metadata = "0xc1" ∧ LastBalance o.changes store 70 := by
  obtain ⟨o, ho, hchanges⟩ : ∃ o, Outcome.ofResponse (Flow.response 0) = .ok o ∧
      o.changes = [Flow.debtWrite "100", Flow.purseWrite] := ⟨_, rfl, rfl⟩
  have hread := Flow.extractBalances_first hchanges
  have hshows := extractBalances_shows o Flow.repaying.tokens Flow.repaying.owner
  exact ⟨o, ho, (hshows.balance _ "0xc1" 70 hread).1 rfl⟩

/-- The write of a store with a balance. -/
def storeWith (balance : Json) : Json.Fields :=
  [("type", .str "write_resource"), ("address", .str "0xb"),
    ("data", .obj [("type", .str "0x1::fungible_asset::FungibleStore"),
      ("data", .obj [("balance", balance), ("metadata", .obj [("inner", .str "0xc1")])])])]

theorem isStoreWrite_storeWith {balance : Json} (h : balance ≠ .null) :
    IsStoreWrite (storeWith balance) "0xc1" balance where
  kind := rfl
  type := ⟨_, "0x1::fungible_asset::FungibleStore", "0x1", rfl, rfl, by rfl, by rfl⟩
  store := ⟨_, _, rfl, rfl, rfl, h, rfl⟩

/-- The digits of the power of ten that has one too many. -/
def longBalance : Json := .str (String.ofList (Numeric.intText (Numeric.tenTo Numeric.digitLimit)))

/-- An outcome with such a balance. -/
def hoard : Outcome := { (default : Outcome) with changes := [storeWith longBalance] }

/-- The digits of an integer are refused as a balance if there are too many of them, though no address
is wrong. -/
theorem extractBalances_of_hoard : hoard.changes = [storeWith longBalance] ∧
    IsStoreWrite (storeWith longBalance) "0xc1" longBalance ∧
    ∃ e, extractBalances hoard [] "0x1" = .error e := by
  have hwrite : IsStoreWrite (storeWith longBalance) "0xc1" longBalance :=
    isStoreWrite_storeWith nofun
  obtain ⟨e, he⟩ := storeWrite?_eq_error_iff.2
    ⟨_, _, hwrite, fun m => Json.not_isInteger_of_long Text.hasText_limit m⟩
  refine ⟨rfl, hwrite, e, ?_⟩
  exact bind_eq_error_iff.2 (Or.inr ⟨[], rfl, bind_eq_error_iff.2 (Or.inl he)⟩)

end Simulation

end MovePlan
