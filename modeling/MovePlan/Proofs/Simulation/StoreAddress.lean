import Mathlib.Data.Set.Function
import MovePlan.Proofs.Move.Address
import MovePlan.Proofs.Simulation.Readings

/-!
# Whose store an address is

The address of a store is the digest of a message that names the owner and the asset by their bytes.
Both have 32 bytes, so the message tells where the one ends and the other begins
(`storeMessage_inj`): two stores have one address only if they are of one owner and one asset, or if
two different messages have one digest.
-/

namespace MovePlan.Simulation

open Move

/-! ## Messages -/

/-- The message whose digest is the address of a store. -/
def storeMessage (creator seed : List UInt8) : List UInt8 :=
  creator ++ seed ++ [Address.seedScheme]

/-- The number of bytes of the message of a store. -/
def storeMessageLength : Nat := 65

/-- Two different messages of stores that have one digest. -/
structure Collide (x y : List UInt8) : Prop where
  length_left : x.length = storeMessageLength
  length_right : y.length = storeMessageLength
  ne : x ≠ y
  digest : Digest.sha3 x = Digest.sha3 y

theorem length_storeMessage {creator seed : List UInt8} (hc : creator.length = 32)
    (hs : seed.length = 32) : (storeMessage creator seed).length = storeMessageLength := by
  simp [storeMessage, storeMessageLength, hc, hs]

/-- A message tells the owner's bytes from the asset's, as the owner has always as many. -/
theorem storeMessage_inj {creator seed creator' seed' : List UInt8}
    (h : creator.length = creator'.length) :
    storeMessage creator seed = storeMessage creator' seed' ↔ creator = creator' ∧ seed = seed' := by
  rw [storeMessage, storeMessage, List.append_left_inj]
  constructor
  · intro happ
    exact List.append_inj happ h
  · rintro ⟨rfl, rfl⟩
    rfl

/-- An address that is derived from a seed is told by the digest. -/
theorem ofSeed_eq_iff {creator seed creator' seed' : List UInt8} :
    Address.ofSeed creator seed = Address.ofSeed creator' seed' ↔
      Digest.sha3 (storeMessage creator seed) = Digest.sha3 (storeMessage creator' seed') := by
  rw [Address.ofSeed, Address.ofSeed, String.ofList_inj, List.cons_inj_right, List.cons_inj_right,
    Address.hexOfBytes_injective.eq_iff]
  rfl

/-! ## Stores -/

variable {owner metadata owner' metadata' : String}
  {creator seed creator' seed' : List UInt8}

theorem storeAddress_of_bytes? (hc : Address.bytes? owner.toList = some creator)
    (hs : Address.bytes? metadata.toList = some seed) :
    storeAddress owner metadata = .ok (Address.ofSeed creator seed) := by
  rw [storeAddress, hs, hc]

theorem isSome_of_storeAddress {store : String} (h : storeAddress owner metadata = .ok store) :
    (Address.bytes? owner.toList).isSome ∧ (Address.bytes? metadata.toList).isSome := by
  rw [storeAddress] at h
  split at h
  · cases h
  next hs =>
    split at h
    · cases h
    next hc => exact ⟨Option.isSome_of_eq_some hc, Option.isSome_of_eq_some hs⟩

/-- There is no store exactly if one of the two texts is no address; the asset's is looked at first. -/
theorem storeAddress_eq_error_iff {e : Error} : storeAddress owner metadata = .error e ↔
    (Address.bytes? metadata.toList = none ∧ e = .invalidAddress metadata) ∨
    ((Address.bytes? metadata.toList).isSome ∧ Address.bytes? owner.toList = none ∧
      e = .invalidAddress owner) := by
  rw [storeAddress]
  cases Address.bytes? metadata.toList with
  | none => simp [eq_comm]
  | some seed =>
    cases Address.bytes? owner.toList with
    | none => simp [eq_comm]
    | some creator => simp

/-- Two stores have one message exactly if they are of one owner and one asset, however the two are
spelled. -/
theorem storeMessage_eq_iff_same (hc : Address.bytes? owner.toList = some creator)
    (hs : Address.bytes? metadata.toList = some seed)
    (hc' : Address.bytes? owner'.toList = some creator')
    (hs' : Address.bytes? metadata'.toList = some seed') :
    storeMessage creator seed = storeMessage creator' seed' ↔
      Address.same owner owner' = true ∧ Address.same metadata metadata' = true := by
  have hlen := (Address.canonicalChars_of_bytes? hc).2
  have hlen' := (Address.canonicalChars_of_bytes? hc').2
  rw [storeMessage_inj (hlen.trans hlen'.symm), Address.same_iff_of_bytes? hc hc',
    Address.same_iff_of_bytes? hs hs']

/-- Two stores have one address exactly if they are of one owner and one asset, or their messages
collide. -/
theorem storeAddress_eq_iff (hc : Address.bytes? owner.toList = some creator)
    (hs : Address.bytes? metadata.toList = some seed)
    (hc' : Address.bytes? owner'.toList = some creator')
    (hs' : Address.bytes? metadata'.toList = some seed') :
    storeAddress owner metadata = storeAddress owner' metadata' ↔
      (Address.same owner owner' = true ∧ Address.same metadata metadata' = true) ∨
      Collide (storeMessage creator seed) (storeMessage creator' seed') := by
  have hone : storeAddress owner metadata = storeAddress owner' metadata' ↔
      Digest.sha3 (storeMessage creator seed) = Digest.sha3 (storeMessage creator' seed') := by
    rw [storeAddress_of_bytes? hc hs, storeAddress_of_bytes? hc' hs', Except.ok.injEq,
      ofSeed_eq_iff]
  rw [hone, ← storeMessage_eq_iff_same hc hs hc' hs']
  have hlength : ∀ {o m : String} {c s : List UInt8}, Address.bytes? o.toList = some c →
      Address.bytes? m.toList = some s → (storeMessage c s).length = storeMessageLength :=
    fun ho hm => length_storeMessage (Address.canonicalChars_of_bytes? ho).2
      (Address.canonicalChars_of_bytes? hm).2
  constructor
  · intro hdigest
    by_cases hmessage : storeMessage creator seed = storeMessage creator' seed'
    · exact Or.inl hmessage
    · exact Or.inr ⟨hlength hc hs, hlength hc' hs', hmessage, hdigest⟩
  · rintro (hmessage | hcollide)
    · rw [hmessage]
    · exact hcollide.digest

/-- What the address of an owner's store of an asset tells about the two. -/
structure Identifies (owner metadata : String) : Prop where
  /-- There is no store exactly if one of the two is no address. -/
  refused : (∃ e, storeAddress owner metadata = .error e) ↔
    Address.bytes? owner.toList = none ∨ Address.bytes? metadata.toList = none
  /-- What is refused is the text that is no address, the asset's first. -/
  reason : ∀ e, storeAddress owner metadata = .error e →
    e = .invalidAddress (if Address.bytes? metadata.toList = none then metadata else owner)
  /-- Another store has the same address if it is of the same owner and asset, however they are
  spelled, and else only if two messages of 65 bytes collide. -/
  apart : ∀ {creator seed creator' seed' : List UInt8} (owner' metadata' : String),
    Address.bytes? owner.toList = some creator → Address.bytes? metadata.toList = some seed →
    Address.bytes? owner'.toList = some creator' → Address.bytes? metadata'.toList = some seed' →
    (storeAddress owner metadata = storeAddress owner' metadata' ↔
      (Address.same owner owner' = true ∧ Address.same metadata metadata' = true) ∨
      Collide (storeMessage creator seed) (storeMessage creator' seed'))
  /-- Where the digest is injective, the owner and the asset are identified. All messages of 65 bytes
  are more than there are digests, so the messages for which it is assumed are left open. -/
  identified : ∀ {creator seed creator' seed' : List UInt8} (owner' metadata' : String)
    (messages : Set (List UInt8)), Set.InjOn Digest.sha3 messages →
    Address.bytes? owner.toList = some creator → Address.bytes? metadata.toList = some seed →
    Address.bytes? owner'.toList = some creator' → Address.bytes? metadata'.toList = some seed' →
    storeMessage creator seed ∈ messages → storeMessage creator' seed' ∈ messages →
    (storeAddress owner metadata = storeAddress owner' metadata' ↔
      Address.same owner owner' = true ∧ Address.same metadata metadata' = true)

/-- **The address of a store identifies its owner and its asset**, in whatever case, padding or
surrounding blanks the two are spelled. -/
theorem storeAddress_identifies (owner metadata : String) : Identifies owner metadata where
  refused := by
    simp only [storeAddress_eq_error_iff]
    constructor
    · rintro ⟨e, ⟨hm, -⟩ | ⟨-, ho, -⟩⟩
      · exact Or.inr hm
      · exact Or.inl ho
    · intro h
      by_cases hm : Address.bytes? metadata.toList = none
      · exact ⟨_, Or.inl ⟨hm, rfl⟩⟩
      · exact ⟨_, Or.inr ⟨Option.isSome_iff_ne_none.2 hm, h.resolve_right hm, rfl⟩⟩
  reason e h := by
    rcases storeAddress_eq_error_iff.1 h with ⟨hm, rfl⟩ | ⟨hm, -, rfl⟩
    · rw [if_pos hm]
    · rw [if_neg (Option.isSome_iff_ne_none.1 hm)]
  apart owner' metadata' hc hs hc' hs' := storeAddress_eq_iff hc hs hc' hs'
  identified owner' metadata' messages hinj hc hs hc' hs' hmem hmem' := by
    rw [storeAddress_eq_iff hc hs hc' hs', or_iff_left]
    intro hcollide
    exact hcollide.ne (hinj hmem hmem' hcollide.digest)

/-- An owner's store of an asset is the same when both are spelled in another way. -/
theorem storeAddress_identifies_respelled :
    (Address.bytes? "0xA11CE".toList).isSome ∧ (Address.bytes? "0xC1".toList).isSome ∧
    storeAddress "0xA11CE" "0xC1" = storeAddress " 0x0a11ce\n" "0x0c1" := by
  obtain ⟨creator, hc⟩ : ∃ creator, Address.bytes? "0xA11CE".toList = some creator := ⟨_, rfl⟩
  obtain ⟨seed, hs⟩ : ∃ seed, Address.bytes? "0xC1".toList = some seed := ⟨_, rfl⟩
  have hc' : Address.bytes? " 0x0a11ce\n".toList = some creator := hc ▸ by decide +kernel
  have hs' : Address.bytes? "0x0c1".toList = some seed := hs ▸ by decide +kernel
  refine ⟨rfl, rfl, ?_⟩
  have hone := (storeAddress_identifies "0xA11CE" "0xC1").identified " 0x0a11ce\n" "0x0c1"
    {storeMessage creator seed} (Set.injOn_singleton _ _) hc hs hc' hs' rfl rfl
  exact hone.2 ⟨by decide +kernel, by decide +kernel⟩

end MovePlan.Simulation
