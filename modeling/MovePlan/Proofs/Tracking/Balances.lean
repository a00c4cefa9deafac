import MovePlan.Simulation.Analysis
import MovePlan.Tracking.Delta

/-!
# Balances laid over others

Three tables of balances meet in a dry run: those of the snapshot, those that a response shows, and
those that are carried. Which assets a table knows is followed through `put` and `overlay`; where no
asset occurs twice, laying a table over another one answers for an asset with the upper table, and
with the lower one where the upper has nothing (`get?_overlay`). What a response shows never has an
asset twice, because it is put together by `put` (`extractBalances_nodup`).

At the end the two readers of such tables: a snapshot knows every token that it was taken of
(`known_of_capture`), and deltas stand in the order of the tokens, each with what the two tables have
for its token (`deltasOf_spans`).
-/

namespace MovePlan

namespace Balances

/-- The assets with an amount, in order. -/
def assets (b : Balances) : List String := b.map Prod.fst

/-- A table knows an asset if it has an amount of it. -/
theorem exists_get?_iff {b : Balances} {asset : String} :
    (∃ n, b.get? asset = some n) ↔ asset ∈ b.assets := by
  induction b with
  | nil => simp [get?, assets]
  | cons e rest ih =>
    obtain ⟨k, v⟩ := e
    by_cases hk : k = asset
    · simp [get?, assets, hk]
    · simpa [get?, assets, hk, Ne.symm hk] using ih

theorem get?_eq_none_iff {b : Balances} {asset : String} :
    b.get? asset = none ↔ asset ∉ b.assets := by
  rw [← exists_get?_iff]
  cases b.get? asset <;> simp

/-! ## Setting one amount -/

/-- Setting an amount adds its asset at the end, or none if the asset is there. -/
theorem assets_put (asset : String) (amount : Int) (b : Balances) :
    (put asset amount b).assets = if asset ∈ b.assets then b.assets else b.assets ++ [asset] := by
  induction b with
  | nil => simp [put, assets]
  | cons e rest ih =>
    obtain ⟨k, v⟩ := e
    by_cases hk : k = asset
    · simp [put, assets, hk]
    · simp only [assets] at ih
      by_cases hmem : asset ∈ rest.map Prod.fst <;> simp [put, assets, hk, Ne.symm hk, ih, hmem]

theorem mem_assets_put {asset other : String} {amount : Int} {b : Balances} :
    other ∈ (put asset amount b).assets ↔ other = asset ∨ other ∈ b.assets := by
  rw [assets_put]
  split
  next hmem => exact ⟨.inr, fun h => h.elim (fun heq => heq ▸ hmem) id⟩
  next => simp [or_comm]

theorem nodup_put {b : Balances} (hb : b.assets.Nodup) (asset : String) (amount : Int) :
    (put asset amount b).assets.Nodup := by
  rw [assets_put]
  split
  next => exact hb
  next hmem =>
    have hfresh : ∀ a ∈ b.assets, ∀ other ∈ [asset], a ≠ other := by
      intro a ha other hother heq
      rw [List.mem_singleton.1 hother] at heq
      exact hmem (heq ▸ ha)
    exact List.nodup_append.2 ⟨hb, by simp, hfresh⟩

/-! ## Laying one table over another -/

theorem mem_assets_overlay {b later : Balances} {asset : String} :
    asset ∈ (b.overlay later).assets ↔ asset ∈ b.assets ∨ asset ∈ later.assets := by
  induction later generalizing b with
  | nil => simp [overlay, assets]
  | cons e rest ih =>
    have hstep : b.overlay (e :: rest) = (put e.1 e.2 b).overlay rest := rfl
    rw [hstep, ih, mem_assets_put]
    simp only [assets, List.map_cons, List.mem_cons]
    rw [or_comm (a := asset = e.1), or_assoc]

theorem nodup_overlay {b : Balances} (hb : b.assets.Nodup) (later : Balances) :
    (b.overlay later).assets.Nodup := by
  induction later generalizing b with
  | nil => exact hb
  | cons e rest ih => exact ih (nodup_put hb e.1 e.2)

/-- **What is laid over a table answers first.** -/
theorem get?_overlay {later : Balances} (hlater : later.assets.Nodup) (b : Balances)
    (asset : String) : (b.overlay later).get? asset = (later.get? asset).or (b.get? asset) := by
  induction later generalizing b with
  | nil => simp [overlay, get?]
  | cons e rest ih =>
    obtain ⟨k, v⟩ := e
    obtain ⟨hk, hrest⟩ := List.nodup_cons.1 hlater
    have hstep : b.overlay ((k, v) :: rest) = (put k v b).overlay rest := rfl
    rw [hstep, ih hrest]
    by_cases heq : asset = k
    · -- The amount that was just put stays, since the rest does not know the asset again.
      subst heq
      have hnone : get? rest asset = none := get?_eq_none_iff.2 hk
      simp [hnone, get?_put_self, get?]
    · simp [get?_put_of_ne heq, get?, Ne.symm heq]

end Balances

namespace Simulation

/-! ## What a response shows -/

theorem balancesFrom_cons_of_none {stores : List (String × String)} {change : Json.Fields}
    (h : storeWrite? change = .ok none) (rest : List Json.Fields) (acc : Balances) :
    balancesFrom stores (change :: rest) acc = balancesFrom stores rest acc := by
  rw [balancesFrom, h]
  rfl

theorem balancesFrom_cons_of_some {stores : List (String × String)} {change : Json.Fields}
    {write : StoreWrite} {asset : String} (h : storeWrite? change = .ok (some write))
    (hasset : assetAt? stores (addressOf change) = some asset) (rest : List Json.Fields)
    (acc : Balances) :
    balancesFrom stores (change :: rest) acc =
      balancesFrom stores rest (Balances.put asset write.balance acc) := by
  rw [balancesFrom, h]
  simp [bind, Except.bind, hasset]

theorem balancesFrom_cons_of_untracked {stores : List (String × String)} {change : Json.Fields}
    {write : StoreWrite} (h : storeWrite? change = .ok (some write))
    (hasset : assetAt? stores (addressOf change) = none) (rest : List Json.Fields)
    (acc : Balances) :
    balancesFrom stores (change :: rest) acc = balancesFrom stores rest acc := by
  rw [balancesFrom, h]
  simp [bind, Except.bind, hasset]

theorem balancesFrom_nodup {stores : List (String × String)} {changes : List Json.Fields}
    {acc b : Balances} (hacc : acc.assets.Nodup) (h : balancesFrom stores changes acc = .ok b) :
    b.assets.Nodup := by
  induction changes generalizing acc with
  | nil =>
    obtain rfl : acc = b := by simpa [balancesFrom] using h
    exact hacc
  | cons change rest ih =>
    obtain ⟨write, -, h⟩ := Error.bind_eq_ok_iff.1 h
    cases write with
    | none => exact ih hacc h
    | some write =>
      cases hasset : assetAt? stores (addressOf change) with
      | none => exact ih hacc (by simpa [hasset] using h)
      | some asset => exact ih (Balances.nodup_put hacc asset write.balance) (by simpa [hasset] using h)

/-- **A response shows no asset twice.** -/
theorem extractBalances_nodup {o : Outcome} {tokens : List Token} {owner : String} {b : Balances}
    (h : extractBalances o tokens owner = .ok b) : b.assets.Nodup := by
  obtain ⟨stores, -, h⟩ := Error.bind_eq_ok_iff.1 h
  have hempty : (Balances.assets []).Nodup := List.nodup_nil
  exact balancesFrom_nodup hempty h

end Simulation

namespace Tracking

/-! ## Snapshots -/

theorem tokens_of_readAll {reader : BalanceReader} {owner : String} {tokens : List Token}
    {answers : List (Token × Json)} (h : readAll reader owner tokens = .ok answers) :
    answers.map Prod.fst = tokens := by
  induction tokens generalizing answers with
  | nil =>
    obtain rfl : [] = answers := by simpa [readAll] using h
    rfl
  | cons t rest ih =>
    obtain ⟨value, -, h⟩ := Error.bind_eq_ok_iff.1 h
    obtain ⟨later, hlater, h⟩ := Error.bind_eq_ok_iff.1 h
    obtain rfl : (t, value) :: later = answers := by simpa [pure, Except.pure] using h
    simp [ih hlater]

theorem assets_of_integersOf {answers : List (Token × Json)} {entries : Balances}
    (h : integersOf answers = .ok entries) :
    entries.assets = (answers.map Prod.fst).map Token.metadata := by
  induction answers generalizing entries with
  | nil =>
    obtain rfl : [] = entries := by simpa [integersOf] using h
    rfl
  | cons answer rest ih =>
    obtain ⟨t, value⟩ := answer
    obtain ⟨n, -, h⟩ := Error.bind_eq_ok_iff.1 h
    obtain ⟨later, hlater, h⟩ := Error.bind_eq_ok_iff.1 h
    obtain rfl : (t.metadata, n) :: later = entries := by simpa [pure, Except.pure] using h
    simpa [Balances.assets] using ih hlater

/-- Each asset occurs once in a snapshot. -/
theorem nodup_of_capture {reader : BalanceReader} {owner : String} {tokens : List Token}
    {s : Snapshot} (h : capture reader owner tokens = .ok s) : s.balances.assets.Nodup := by
  obtain ⟨answers, -, h⟩ := Error.bind_eq_ok_iff.1 h
  obtain ⟨entries, -, h⟩ := Error.bind_eq_ok_iff.1 h
  obtain rfl : ({ owner, balances := Balances.ofEntries entries } : Snapshot) = s := by
    simpa [pure, Except.pure] using h
  have hempty : (Balances.assets []).Nodup := List.nodup_nil
  exact Balances.nodup_overlay hempty entries

/-- **A snapshot knows the balance of every token that it was taken of.** -/
theorem known_of_capture {reader : BalanceReader} {owner : String} {tokens : List Token}
    {s : Snapshot} (h : capture reader owner tokens = .ok s) {t : Token} (ht : t ∈ tokens) :
    ∃ n, s.balances.get? t.metadata = some n := by
  obtain ⟨answers, hanswers, h⟩ := Error.bind_eq_ok_iff.1 h
  obtain ⟨entries, hentries, h⟩ := Error.bind_eq_ok_iff.1 h
  obtain rfl : ({ owner, balances := Balances.ofEntries entries } : Snapshot) = s := by
    simpa [pure, Except.pure] using h
  refine Balances.exists_get?_iff.2 (Balances.mem_assets_overlay.2 (.inr ?_))
  rw [assets_of_integersOf hentries, tokens_of_readAll hanswers]
  exact List.mem_map_of_mem ht

/-! ## Deltas -/

/-- A delta goes from the balance of its token in one table to that in another. -/
structure Delta.Spans (d : Delta) (before after : Balances) : Prop where
  before : before.get? d.token.metadata = some d.before
  after : after.get? d.token.metadata = some d.after
  change : d.change = d.after - d.before

theorem deltaOf_eq_ok {before after : Balances} {t : Token} {d : Delta}
    (h : deltaOf before after t = .ok d) :
    d.token = t ∧ d.before = (before.get? t.metadata).getD 0 ∧
      d.after = (after.get? t.metadata).getD d.before ∧ d.change = d.after - d.before := by
  obtain ⟨text, -, h⟩ := Error.bind_eq_ok_iff.1 h
  obtain rfl := Except.ok.inj h
  exact ⟨rfl, rfl, rfl, rfl⟩

theorem deltasOf_cons_eq_ok {before after : Balances} {t : Token} {rest : List Token}
    {ds : List Delta} (h : deltasOf before after (t :: rest) = .ok ds) :
    ∃ d later, ds = d :: later ∧ deltaOf before after t = .ok d ∧
      deltasOf before after rest = .ok later := by
  obtain ⟨d, hd, h⟩ := Error.bind_eq_ok_iff.1 h
  obtain ⟨later, hlater, h⟩ := Error.bind_eq_ok_iff.1 h
  exact ⟨d, later, (Except.ok.inj h).symm, hd, hlater⟩

/-- **There is one delta for each token, in the tokens' order.** -/
theorem tokens_of_deltasOf {before after : Balances} {tokens : List Token} {ds : List Delta}
    (h : deltasOf before after tokens = .ok ds) : ds.map Delta.token = tokens := by
  induction tokens generalizing ds with
  | nil =>
    obtain rfl : [] = ds := by simpa [deltasOf] using h
    rfl
  | cons t rest ih =>
    obtain ⟨d, later, rfl, hd, hlater⟩ := deltasOf_cons_eq_ok h
    obtain ⟨htoken, -⟩ := deltaOf_eq_ok hd
    rw [List.map_cons, htoken, ih hlater]

/-- Where both tables know its token, a delta goes from the one table to the other. -/
theorem deltasOf_spans {before after : Balances} {tokens : List Token} {ds : List Delta}
    (h : deltasOf before after tokens = .ok ds) {d : Delta} (hd : d ∈ ds)
    (hbefore : ∃ n, before.get? d.token.metadata = some n)
    (hafter : ∃ n, after.get? d.token.metadata = some n) : d.Spans before after := by
  induction tokens generalizing ds with
  | nil =>
    obtain rfl : [] = ds := by simpa [deltasOf] using h
    cases hd
  | cons t rest ih =>
    obtain ⟨first, later, rfl, hfirst, hlater⟩ := deltasOf_cons_eq_ok h
    rcases List.mem_cons.1 hd with rfl | hd
    · obtain ⟨htoken, hb, ha, hchange⟩ := deltaOf_eq_ok hfirst
      subst htoken
      obtain ⟨b, hbefore⟩ := hbefore
      obtain ⟨a, hafter⟩ := hafter
      exact ⟨by simp [hb, hbefore], by simp [ha, hafter], hchange⟩
    · exact ih hlater hd

end Tracking

end MovePlan
