import MovePlan.Proofs.Move.Alike
import MovePlan.Proofs.Simulation.OwnStores

/-!
# Symbols of assets

An asset is shown by the symbol of the first key of the registry that is its address and is written alike,
and by the beginning of its address if there is none (`symbols_follow_addresses`). So the write of a tracked
token's store is shown with the token's symbol if the write has the address of the asset as the token has it.

A key that has the address with other zeros in front is passed over (`symbolOf_passes_over_zeros`), though
the balance in the same write is taken for that of its token.
-/

namespace MovePlan

open Move Text Error

namespace Simulation

/-! ## The first key -/

/-- What is shown of an asset without a symbol. -/
def shortened (metadata : String) : String :=
  String.ofList (metadata.toList.take shownAddressLength ++ ['.', '.', '.'])

/-- Whether a text is the symbol of an asset: that of the first key that means it, and the beginning of its
address if none does. -/
inductive IsSymbol (means : String → Prop) (registry : Registry) (metadata : String) : String → Prop where
  | first {before after : Registry} {key symbol : String}
      (hregistry : registry = before ++ (key, symbol) :: after) (hkey : means key)
      (hbefore : ∀ e ∈ before, ¬means e.1) : IsSymbol means registry metadata symbol
  | shortened (hnone : ∀ e ∈ registry, ¬means e.1) : IsSymbol means registry metadata (shortened metadata)

variable {registry : Registry} {metadata : String}

/-- Of keys that are addresses, the first is taken that is the address and written alike. -/
theorem isSymbol_symbolOf (hkeys : ∀ e ∈ registry, (Address.bytes? e.1.toList).isSome)
    (hmetadata : (Address.bytes? metadata.toList).isSome) :
    IsSymbol (fun key => Address.same key metadata = true ∧ Address.WrittenAlike key metadata) registry
      metadata (symbolOf registry metadata) := by
  have hmeans : ∀ e ∈ registry, lowered e.1 = lowered metadata ↔
      Address.same e.1 metadata = true ∧ Address.WrittenAlike e.1 metadata := fun e he =>
    Address.lowered_eq_iff (hkeys e he) hmetadata
  rw [symbolOf]
  split
  · next e he =>
    obtain ⟨key, symbol⟩ := e
    obtain ⟨hlower, before, after, hregistry, hbefore⟩ := List.find?_eq_some_iff_append.1 he
    have hmem : ∀ q ∈ before, q ∈ registry := fun q hq => hregistry ▸ List.mem_append_left _ hq
    refine .first hregistry ((hmeans (key, symbol) ?_).1 (beq_iff_eq.1 hlower)) fun q hq hbad => ?_
    · rw [hregistry]
      exact List.mem_append_right before List.mem_cons_self
    · have hno := hbefore q hq
      rw [beq_iff_eq.2 ((hmeans q (hmem q hq)).2 hbad)] at hno
      cases hno
  · next hnone =>
    refine .shortened fun e he hbad => ?_
    have hno := List.find?_eq_none.1 hnone e he
    exact hno (beq_iff_eq.2 ((hmeans e he).2 hbad))

/-! ## The registry of tokens -/

variable {tokens : List Token} {t : Token} {e : String × String} {symbol : String}

theorem mem_put (h : e ∈ Registry.put metadata symbol registry) :
    e = (metadata, symbol) ∨ e ∈ registry := by
  induction registry with
  | nil => exact Or.inl (List.mem_singleton.1 h)
  | cons q rest ih =>
    rw [Registry.put] at h
    split at h
    · next hkey =>
      rcases List.mem_cons.1 h with rfl | h
      · exact Or.inl (by rw [hkey])
      · exact Or.inr (List.mem_cons_of_mem q h)
    · rcases List.mem_cons.1 h with rfl | h
      · exact Or.inr List.mem_cons_self
      · exact (ih h).imp_right (List.mem_cons_of_mem q)

theorem mem_keys_put {key : String} (h : key = metadata ∨ key ∈ registry.map Prod.fst) :
    key ∈ (Registry.put metadata symbol registry).map Prod.fst := by
  induction registry with
  | nil => simpa [Registry.put] using h
  | cons q rest ih =>
    rw [Registry.put]
    split
    · next hkey =>
      simp only [List.map_cons, List.mem_cons] at h ⊢
      rcases h with h | h | h
      · exact Or.inl (h.trans hkey.symm)
      · exact Or.inl h
      · exact Or.inr h
    · simp only [List.map_cons, List.mem_cons] at h ⊢
      rcases h with h | h | h
      · exact Or.inr (ih (Or.inl h))
      · exact Or.inl h
      · exact Or.inr (ih (Or.inr h))

/-- Keys and symbols are those of tokens. -/
theorem exists_token_of_mem_ofTokens (h : e ∈ Registry.ofTokens tokens) :
    ∃ u ∈ tokens, e = (u.metadata, u.symbol) := by
  have hfrom : ∀ r : Registry, e ∈ tokens.foldl (fun r t => Registry.put t.metadata t.symbol r) r →
      e ∈ r ∨ ∃ u ∈ tokens, e = (u.metadata, u.symbol) := by
    clear h
    induction tokens with
    | nil => exact fun _ => Or.inl
    | cons u rest ih =>
      intro r h
      rcases ih _ h with h | ⟨v, hv, rfl⟩
      · rcases mem_put h with rfl | h
        · exact Or.inr ⟨u, List.mem_cons_self, rfl⟩
        · exact Or.inl h
      · exact Or.inr ⟨v, List.mem_cons_of_mem u hv, rfl⟩
  exact (hfrom [] h).resolve_left List.not_mem_nil

/-- Every token has its key. -/
theorem mem_keys_ofTokens (h : t ∈ tokens) : t.metadata ∈ (Registry.ofTokens tokens).map Prod.fst := by
  have hfrom : ∀ r : Registry, t ∈ tokens ∨ t.metadata ∈ r.map Prod.fst →
      t.metadata ∈ (tokens.foldl (fun r t => Registry.put t.metadata t.symbol r) r).map Prod.fst := by
    clear h
    induction tokens with
    | nil =>
      intro r h
      exact h.resolve_left List.not_mem_nil
    | cons u rest ih =>
      intro r h
      refine ih _ ?_
      rcases h with h | h
      · rcases List.mem_cons.1 h with rfl | h
        · exact Or.inr (mem_keys_put (Or.inl rfl))
        · exact Or.inl h
      · exact Or.inr (mem_keys_put (Or.inr h))
  exact hfrom [] (Or.inl h)

/-- A token that no other shares its address with is shown by its symbol wherever its address stands as it
has it, but for letter case. -/
theorem symbolOf_ofTokens (hvalid : ∀ u ∈ tokens, (Address.bytes? u.metadata.toList).isSome) (ht : t ∈ tokens)
    (halone : ∀ u ∈ tokens, Address.same u.metadata t.metadata = true → u = t)
    (hlower : lowered t.metadata = lowered metadata) :
    symbolOf (Registry.ofTokens tokens) metadata = t.symbol := by
  rw [symbolOf]
  split
  · next e he =>
    have hkey : lowered e.1 = lowered metadata := by simpa using List.find?_some he
    obtain ⟨u, hu, rfl⟩ := exists_token_of_mem_ofTokens (List.mem_of_find?_eq_some he)
    have hsame := (Address.lowered_eq_iff (hvalid u hu) (hvalid t ht)).1 (hkey.trans hlower.symm)
    rw [halone u hu hsame.1]
  · next hnone =>
    obtain ⟨e, he, hkey⟩ := List.mem_map.1 (mem_keys_ofTokens ht)
    exact absurd (beq_iff_eq.2 (by rw [hkey, hlower])) (List.find?_eq_none.1 hnone e he)

/-! ## Writes that are credited -/

variable {position : Option Position} {o : Outcome} {owner : String} {change : Json.Fields} {balance : Json}
  {before after : List Json.Fields} {writes : Writes} {summary : Summary}

/-- Writes are those of the changes up to one and of those from it on. -/
theorem exists_writes_of_append {xs ys : List Json.Fields}
    (h : writesOf registry position (xs ++ ys) = .ok writes) :
    ∃ wx wy, writesOf registry position xs = .ok wx ∧ writesOf registry position ys = .ok wy ∧
      writes.balances = wx.balances ++ wy.balances ∧ writes.vaults = wx.vaults ++ wy.vaults := by
  induction xs generalizing writes with
  | nil => exact ⟨{}, writes, rfl, h, rfl, rfl⟩
  | cons change rest ih =>
    obtain ⟨write, hstore, h⟩ := bind_eq_ok_iff.1 h
    cases write with
    | some write =>
      obtain ⟨later, hlater, h⟩ := bind_eq_ok_iff.1 h
      obtain rfl := Except.ok.inj h
      obtain ⟨wx, wy, hx, hy, hbalances, hvaults⟩ := ih hlater
      refine ⟨_, wy, bind_eq_ok_iff.2 ⟨_, hstore, bind_eq_ok_iff.2 ⟨_, hx, rfl⟩⟩, hy, ?_, hvaults⟩
      rw [hbalances, List.cons_append]
    | none =>
      obtain ⟨vault, hvault, h⟩ := bind_eq_ok_iff.1 h
      obtain ⟨later, hlater, h⟩ := bind_eq_ok_iff.1 h
      obtain rfl := Except.ok.inj h
      obtain ⟨wx, wy, hx, hy, hbalances, hvaults⟩ := ih hlater
      refine ⟨{ wx with vaults := vault.toList ++ wx.vaults }, wy, ?_, hy, hbalances, ?_⟩
      · exact bind_eq_ok_iff.2 ⟨_, hstore, bind_eq_ok_iff.2 ⟨_, hvault, bind_eq_ok_iff.2 ⟨_, hx, rfl⟩⟩⟩
      · rw [hvaults, List.append_assoc]

/-- A change that is the write of a store, with what it shows, and the token that its balance is taken for:
the last of those that have their store of the owner's there. -/
structure IsCredited (owner : String) (tokens : List Token) (change : Json.Fields) (metadata : String)
    (balance : Json) (t : Token) : Prop where
  write : IsStoreWrite change metadata balance
  token : ∃ store, IsLastWithStore owner tokens t store ∧ Address.same (addressOf change) store = true

theorem IsCredited.mem (h : IsCredited owner tokens change metadata balance t) : t ∈ tokens := by
  obtain ⟨store, ⟨-, before, after, rfl, -⟩, -⟩ := h.token
  exact List.mem_append_right before List.mem_cons_self

/-- A credited write is shown in its place, with the symbol of its token. -/
theorem shown_of_isCredited {b : Balances} (hread : extractBalances o tokens owner = .ok b)
    (hsummary : summarize o (Registry.ofTokens tokens) position = .ok summary)
    (hchanges : o.changes = before ++ change :: after)
    (hcredited : IsCredited owner tokens change metadata balance t)
    (halone : ∀ u ∈ tokens, Address.same u.metadata t.metadata = true → u = t)
    (hsame : Address.same t.metadata metadata = true) (halike : Address.WrittenAlike t.metadata metadata) :
    ∃ n earlier later, balance.IsInteger n ∧
      writesOf (Registry.ofTokens tokens) position before = .ok earlier ∧
      writesOf (Registry.ofTokens tokens) position after = .ok later ∧
      summary.writes.balances =
        earlier.balances ++ ⟨addressOf change, t.symbol, metadata, n⟩ :: later.balances := by
  obtain ⟨stores, hstores, -⟩ := bind_eq_ok_iff.1 hread
  have hvalid : ∀ u ∈ tokens, (Address.bytes? u.metadata.toList).isSome := fun u hu =>
    (forall_isSome_of_expectedStores hstores u hu).2
  have hlower : lowered t.metadata = lowered metadata := by
    rw [lowered, lowered, Address.lower_eq_of_same (hvalid t hcredited.mem) hsame halike]
  have hsymbol := symbolOf_ofTokens hvalid hcredited.mem halone hlower
  obtain ⟨writes, hwrites, h⟩ := bind_eq_ok_iff.1 hsummary
  obtain ⟨gasCost, -, h⟩ := bind_eq_ok_iff.1 h
  obtain rfl := Except.ok.inj h
  rw [hchanges] at hwrites
  obtain ⟨earlier, rest, hearlier, hrest, hbalances, -⟩ := exists_writes_of_append hwrites
  obtain ⟨write, hwrite, h⟩ := bind_eq_ok_iff.1 hrest
  obtain ⟨n, hn⟩ := hcredited.write.exists_isInteger hwrite
  have hread : storeWrite? change = .ok (some ⟨metadata, n⟩) :=
    storeWrite?_eq_some_iff.2 ⟨balance, hcredited.write, hn⟩
  rw [hread] at hwrite
  obtain rfl := Except.ok.inj hwrite
  obtain ⟨later, hlater, h⟩ := bind_eq_ok_iff.1 h
  obtain rfl := Except.ok.inj h
  exact ⟨n, earlier, later, hn, hearlier, hlater, by rw [hbalances, hsymbol]⟩

/-- **Symbols follow addresses that are written alike.** Of the keys of a registry the first is taken that is
the asset's address and written alike. A write that is credited to a token has the token's symbol if it has
the token's address written alike, and no other token has the address. -/
theorem symbols_follow_addresses (registry : Registry) (metadata : String) :
    ((∀ e ∈ registry, (Address.bytes? e.1.toList).isSome) → (Address.bytes? metadata.toList).isSome →
      IsSymbol (fun key => Address.same key metadata = true ∧ Address.WrittenAlike key metadata) registry
        metadata (symbolOf registry metadata)) ∧
    ∀ (o : Outcome) (tokens : List Token) (owner : String) (b : Balances) (position : Option Position)
      (summary : Summary), extractBalances o tokens owner = .ok b →
      summarize o (Registry.ofTokens tokens) position = .ok summary →
      ∀ (before after : List Json.Fields) (change : Json.Fields) (balance : Json) (t : Token),
        o.changes = before ++ change :: after →
        IsCredited owner tokens change metadata balance t →
        (∀ u ∈ tokens, Address.same u.metadata t.metadata = true → u = t) →
        Address.same t.metadata metadata = true → Address.WrittenAlike t.metadata metadata →
        ∃ n earlier later, balance.IsInteger n ∧
          writesOf (Registry.ofTokens tokens) position before = .ok earlier ∧
          writesOf (Registry.ofTokens tokens) position after = .ok later ∧
          summary.writes.balances =
            earlier.balances ++ ⟨addressOf change, t.symbol, metadata, n⟩ :: later.balances :=
  ⟨isSymbol_symbolOf, fun _ _ _ _ _ _ hread hsummary _ _ _ _ _ => shown_of_isCredited hread hsummary⟩

/-- A key with capital letters is taken, and the payer's store is shown with the symbol of its token. -/
theorem symbols_follow_addresses_repaying :
    IsSymbol (fun key => Address.same key "0xa" = true ∧ Address.WrittenAlike key "0xa")
      [("0x0a", "OLD"), ("0xA", "NEW")] "0xa" "NEW" ∧
    ∃ o summary earlier later n, Outcome.ofResponse (Flow.response 0) = .ok o ∧
      summarize o (Registry.ofTokens Flow.repaying.tokens) none = .ok summary ∧
      summary.writes.balances = earlier ++ ⟨Flow.purse, "USDC", "0xc1", n⟩ :: later := by
  have hsymbol := (symbols_follow_addresses [("0x0a", "OLD"), ("0xA", "NEW")] "0xa").1 (by decide) (by decide)
  refine ⟨hsymbol, ?_⟩
  obtain ⟨o, ho, hchanges, summary, hsummary⟩ : ∃ o, Outcome.ofResponse (Flow.response 0) = .ok o ∧
      o.changes = [Flow.debtWrite "100", Flow.purseWrite] ∧
        ∃ summary, summarize o (Registry.ofTokens Flow.repaying.tokens) none = .ok summary :=
    ⟨_, rfl, rfl, _, rfl⟩
  have hstore : IsLastWithStore Flow.repaying.owner Flow.repaying.tokens Flow.usdc Flow.purse :=
    ⟨rfl, [], [], rfl, by simp⟩
  have hcredited : IsCredited Flow.repaying.owner Flow.repaying.tokens Flow.purseWrite "0xc1" (.str "70")
      Flow.usdc :=
    ⟨storeFields?_eq_some_iff.1 rfl, Flow.purse, hstore, by simp [Flow.addressOf_purseWrite, Address.same]⟩
  have hshown := (symbols_follow_addresses (Registry.ofTokens Flow.repaying.tokens) "0xc1").2
  obtain ⟨n, earlier, later, -, -, -, hbalances⟩ := hshown o _ _ _ none summary
    (Flow.extractBalances_first hchanges) hsummary [Flow.debtWrite "100"] [] _ _ _ hchanges hcredited
    (by simp [Flow.repaying]) (by decide) ⟨[], [], by simp, by decide, by decide, by decide⟩
  rw [Flow.addressOf_purseWrite] at hbalances
  exact ⟨o, summary, earlier.balances, later.balances, n, ho, hsummary, hbalances⟩

/-- Of an address with another zero in front the key is not taken. -/
theorem symbolOf_passes_over_zeros :
    ¬∀ (registry : Registry) (metadata : String), (∀ e ∈ registry, (Address.bytes? e.1.toList).isSome) →
      (Address.bytes? metadata.toList).isSome →
      IsSymbol (fun key => Address.same key metadata = true) registry metadata
        (symbolOf registry metadata) := by
  intro h
  have hsymbol : symbolOf [("0x0a", "FOO")] "0xa" = "0xa..." := by decide
  have hsame : Address.same "0x0a" "0xa" = true := by decide
  have hbad := h [("0x0a", "FOO")] "0xa" (by decide) (by decide)
  rw [hsymbol] at hbad
  generalize hs : "0xa..." = symbol at hbad
  cases hbad with
  | @first before after key _ hregistry =>
    have hmem : (key, symbol) ∈ [("0x0a", "FOO")] :=
      hregistry ▸ List.mem_append_right before List.mem_cons_self
    have hfoo : symbol = "FOO" := (Prod.mk.inj (List.mem_singleton.1 hmem)).2
    rw [← hs] at hfoo
    exact absurd hfoo (by decide)
  | shortened hnone => exact hnone _ List.mem_cons_self hsame

end Simulation

end MovePlan
