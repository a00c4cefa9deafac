import MovePlan.Proofs.Node.Modules
import MovePlan.Proofs.Validation.Failures

/-!
# Lookups at a node

A lookup brings what is sought, or that it is not there, or could not be fetched. Two things end it in
other ways (`Client.Escapes`): a request that is refused on the way, and an interface with a number or
`true` where members are gone through. There are no more (`lookups_fail_as_declared`), and the second is
there whatever the way is like (`lookup_fails_otherwise`).
-/

namespace MovePlan

open Move Graph Abi Text Validation Error

/-! ## Members -/

namespace Abi

/-- A list of texts is refused exactly if it is a single value. -/
theorem textsOf_eq (j : Json) : (j.isLone = true ∧ textsOf j = .error .wrongType) ∨
    (j.isLone = false ∧ ∃ xs, textsOf j = .ok xs) := by
  unfold textsOf
  rcases j.membersIfGiven_eq with ⟨hj, h⟩ | ⟨hj, xs, h⟩
  · exact Or.inl ⟨hj, by rw [h]; rfl⟩
  · exact Or.inr ⟨hj, _, by rw [h]; rfl⟩

theorem textsOf_eq_error_iff {j : Json} {e : Error} :
    textsOf j = .error e ↔ j.isLone = true ∧ e = .wrongType := by
  rcases textsOf_eq j with ⟨hj, h⟩ | ⟨hj, xs, h⟩ <;> simp [hj, h, eq_comm]

/-- The same of a list whose members are only counted. -/
theorem countOf_eq (j : Json) : (j.isLone = true ∧ countOf j = .error .wrongType) ∨
    (j.isLone = false ∧ ∃ n, countOf j = .ok n) := by
  unfold countOf
  rcases j.membersIfGiven_eq with ⟨hj, h⟩ | ⟨hj, xs, h⟩
  · exact Or.inl ⟨hj, by rw [h]; rfl⟩
  · exact Or.inr ⟨hj, _, by rw [h]; rfl⟩

/-- The fields of a function's entry whose members are gone through. -/
def Signature.keys : List String := ["params", "generic_type_params", "return"]

/-- An entry has no signature exactly if one of its lists is a single value. -/
theorem Signature.ofEntry_eq_error_iff {entry : Json} {e : Error} (h : entry.isObject = true) :
    ofEntry entry = .error e ↔
      (∃ key ∈ keys, (entry.get key).isLone = true) ∧ e = .wrongType := by
  rw [ofEntry, h]
  rcases textsOf_eq (entry.get "params") with ⟨hp, hparams⟩ | ⟨hp, params, hparams⟩ <;>
  rcases countOf_eq (entry.get "generic_type_params") with ⟨hg, hgen⟩ | ⟨hg, generics, hgen⟩ <;>
  rcases textsOf_eq (entry.get "return") with ⟨hr, hret⟩ | ⟨hr, returns, hret⟩ <;>
  simp [keys, hp, hg, hr, hparams, hgen, hret, bind, Except.bind, pure, Except.pure, @eq_comm _ e]

end Abi

/-! ## Interfaces -/

namespace Node

/-- Whether an interface is so odd that an entry of it cannot be read: a list of entries, or a field of
the entry with the name, has no members though it is given. -/
inductive IsOdd (interface : Json.Fields) (list name : String) (keys : List String) : Prop where
  | list (h : ((Json.field? list interface).getD .null).isLone = true)
  | field {entry : Json} {key : String} (h : Client.namedEntry? interface list name = .ok (some entry))
    (hkey : key ∈ keys) (hlone : (entry.get key).isLone = true)

namespace Client

variable {interface : Json.Fields} {list name : String} {e : Error}

/-- An entry is not found for an error exactly if the list to look in is a single value. -/
theorem namedEntry?_eq_error_iff : namedEntry? interface list name = .error e ↔
    ((Json.field? list interface).getD .null).isLone = true ∧ e = .wrongType := by
  unfold namedEntry?
  rw [Json.isLone]
  generalize (Json.field? list interface).getD .null = j
  dsimp only
  cases j.given <;> cases j.members? <;> simp [@eq_comm _ e]

theorem isObject_of_named {entry : Json}
    (h : namedEntry? interface list name = .ok (some entry)) : entry.isObject = true := by
  unfold namedEntry? at h
  generalize (Json.field? list interface).getD .null = j at h
  dsimp only at h
  split at h
  · cases h
  · split at h
    · cases h
    next entries _ =>
      have hname := List.find?_some (Except.ok.inj h)
      cases entry <;> first | rfl | simp [Json.get, Json.get?, Json.text?] at hname

/-- An entry is read unless the interface is odd, whatever is read from it. -/
theorem entry_eq_error_iff {α : Type} {read : Json → Except Error α} {keys : List String}
    (hread : ∀ entry : Json, entry.isObject = true → (read entry = .error e ↔
      (∃ key ∈ keys, (entry.get key).isLone = true) ∧ e = .wrongType)) :
    (do match ← namedEntry? interface list name with
        | none => pure none
        | some entry => pure (some (← read entry))) = (.error e : Except Error (Option α)) ↔
      IsOdd interface list name keys ∧ e = .wrongType := by
  rw [bind_eq_error_iff, namedEntry?_eq_error_iff]
  constructor
  · rintro (⟨hlone, he⟩ | ⟨_ | entry, hfound, hentry⟩)
    · exact ⟨.list hlone, he⟩
    · cases hentry
    · rw [bind_eq_error_iff, hread entry (isObject_of_named hfound)] at hentry
      rcases hentry with ⟨⟨key, hkey, hlone⟩, he⟩ | ⟨_, -, hdone⟩
      · exact ⟨.field hfound hkey hlone, he⟩
      · cases hdone
  · rintro ⟨hlone | @⟨entry, key, hfound, hkey, hlone⟩, he⟩
    · exact Or.inl ⟨hlone, he⟩
    · refine Or.inr ⟨some entry, hfound, ?_⟩
      rw [bind_eq_error_iff, hread entry (isObject_of_named hfound)]
      exact Or.inl ⟨⟨key, hkey, hlone⟩, he⟩

end Client

end Node

/-- Whether a lookup meets with something odd in the interface of its module. -/
def Abi.Lookup.FindsOdd (interface : Json.Fields) : Abi.Lookup → Prop
  | function id => Node.IsOdd interface "exposed_functions" id.function Signature.keys
  | struct type => ∃ address module name,
      (TypeName.struct? type).map (fun base => splitPath base.toList) = some [address, module, name] ∧
        Node.IsOdd interface "structs" (String.ofList name) ["abilities"]

namespace Node

namespace Client

variable {σ : Type} {c : Client} {t : Transport σ} {k : Knowledge σ} {l : Lookup} {m : ModuleName}
  {e : Error}

/-- What is read inside an interface fails as the interface does, or inside of it. -/
theorem inside_eq_error_iff {α : Type} (x : Except Error (Option Json.Fields))
    {inside : Json.Fields → Except Error (Option α)} {odd : Json.Fields → Prop}
    (hinside : ∀ interface, inside interface = .error e ↔ odd interface ∧ e = .wrongType) :
    (do match ← x with
        | none => pure none
        | some interface => inside interface) = .error e ↔
      x = .error e ∨ ∃ interface, x = .ok (some interface) ∧ odd interface ∧ e = .wrongType := by
  rw [bind_eq_error_iff]
  refine or_congr_right ⟨?_, ?_⟩
  · rintro ⟨_ | interface, hx, hfails⟩
    · cases hfails
    · exact ⟨interface, hx, (hinside interface).1 hfails⟩
  · rintro ⟨interface, hx, hodd⟩
    exact ⟨some interface, hx, (hinside interface).2 hodd⟩

/-- A lookup fails as the module does that it is about, or at something odd in its interface. -/
theorem failsAt_iff : (c.source t).FailsAt k l e ↔ ∃ m, l.module? = some m ∧
    ((c.module t m.address m.name k).1 = .error e ∨
      ∃ interface, (c.module t m.address m.name k).1 = .ok (some interface) ∧
        l.FindsOdd interface ∧ e = .wrongType) := by
  cases l with
  | function id =>
    simp only [Lookup.module?, Option.some.injEq, exists_eq_left']
    exact inside_eq_error_iff _ fun interface => entry_eq_error_iff fun entry h =>
      Signature.ofEntry_eq_error_iff h
  | struct type =>
    change (c.struct t type k).1 = .error e ↔ _
    rw [struct]
    split
    next address name struct hparts =>
      have hmodule : (Lookup.struct type).module? =
          some ⟨String.ofList address, String.ofList name⟩ := by rw [Lookup.module?, hparts]
      have hodd : ∀ interface, (Lookup.struct type).FindsOdd interface ↔
          IsOdd interface "structs" (String.ofList struct) ["abilities"] := by
        simp [Lookup.FindsOdd, hparts]
      simp only [hmodule, Option.some.injEq, exists_eq_left', hodd]
      exact inside_eq_error_iff _ fun interface => entry_eq_error_iff fun entry _ => by
        simp [textsOf_eq_error_iff]
    -- a text that names no struct is not looked up
    next hparts =>
      have hmodule : (Lookup.struct type).module? = none := by
        rw [Lookup.module?]
        split
        next address name struct hparts' => exact (hparts address name struct hparts').elim
        next => rfl
      simp [hmodule]

/-! ## Replies -/

/-- A reply that settles nothing could not be fetched. -/
theorem isAbiFetch_of_interfaceOf {url : String} {reply : Reply}
    (h : interfaceOf url reply = .error e) : e.IsAbiFetch := by
  unfold interfaceOf at h
  split at h
  · cases h
  rcases bind_eq_error_iff.1 h with hdocument | ⟨j, -, hdone⟩
  · unfold documentOf at hdocument
    split at hdocument
    · exact ⟨_, _, _, (Except.error.inj hdocument).symm⟩
    · exact ⟨_, _, _, (Except.error.inj hdocument).symm⟩
    split at hdocument
    · exact ⟨_, _, _, (Except.error.inj hdocument).symm⟩
    split at hdocument
    · cases hdocument
    · exact ⟨_, _, _, (Except.error.inj hdocument).symm⟩
  · cases hdone

/-- The answer about a module that is not known is what the node replies. -/
theorem fst_module_of_not_knows (h : k.Knows m = false) : (c.module t m.address m.name k).1 =
    (t (c.moduleRequest m) k.transport).1 >>= interfaceOf (c.moduleUrl m.address m.name) := by
  have hnew : k.modules.lookup (m.address ++ "::" ++ m.name) = none := by
    simpa [Knowledge.Knows, ModuleName.key] using h
  unfold Client.module
  simp only [hnew]
  split
  next e hreply => exact hreply.symm
  next interface hreply => exact hreply.symm

/-! ## Lookups -/

/-- The ways in which a lookup ends that are no failure to fetch. -/
inductive Escapes (c : Client) (t : Transport σ) (k : Knowledge σ) (l : Lookup) : Error → Prop where
  /-- The request for a module that is not known is refused on the way. -/
  | refused {m : ModuleName} {e : Error} (hm : l.module? = some m) (hnew : k.Knows m = false)
    (h : (t (c.moduleRequest m) k.transport).1 = .error e) : Escapes c t k l e
  /-- The interface has something without members where members are gone through. -/
  | interface {m : ModuleName} {interface : Json.Fields} (hm : l.module? = some m)
    (hfound : (c.module t m.address m.name k).1 = .ok (some interface))
    (hodd : l.FindsOdd interface) : Escapes c t k l .wrongType

/-- Everything that is declared to escape does escape. -/
theorem failsAt_of_escapes (h : c.Escapes t k l e) : (c.source t).FailsAt k l e := by
  rw [failsAt_iff]
  cases h with
  | refused hm hnew h => exact ⟨_, hm, Or.inl (by rw [fst_module_of_not_knows hnew, h]; rfl)⟩
  | interface hm hfound hodd => exact ⟨_, hm, Or.inr ⟨_, hfound, hodd, rfl⟩⟩

/-- Nothing escapes that is not declared. -/
theorem escapes_of_failsAt (h : (c.source t).FailsAt k l e) :
    e.IsAbiFetch ∨ c.Escapes t k l e := by
  obtain ⟨m, hm, hmodule | ⟨interface, hfound, hodd, rfl⟩⟩ := failsAt_iff.1 h
  · cases hnew : k.Knows m with
    | true =>
      obtain ⟨found, hfound⟩ := Option.isSome_iff_exists.1 hnew
      rw [module_of_known hfound] at hmodule
      cases hmodule
    | false =>
      rw [fst_module_of_not_knows hnew] at hmodule
      rcases bind_eq_error_iff.1 hmodule with hsend | ⟨reply, -, hreply⟩
      · exact Or.inr (.refused hm hnew hsend)
      · exact Or.inl (isAbiFetch_of_interfaceOf hreply)
  · exact Or.inr (.interface hm hfound hodd)

/-- If every request is replied to, only an interface of an odd form escapes. -/
theorem escapes_iff_of_replies (ht : t.Replies) : c.Escapes t k l e ↔ e = .wrongType ∧
    ∃ m interface, l.module? = some m ∧
      (c.module t m.address m.name k).1 = .ok (some interface) ∧ l.FindsOdd interface := by
  constructor
  · intro h
    cases h with
    | refused _ _ h =>
      obtain ⟨reply, hreply⟩ := ht _ k.transport
      rw [h] at hreply
      cases hreply
    | interface hm hfound hodd => exact ⟨rfl, _, _, hm, hfound, hodd⟩
  · rintro ⟨rfl, m, interface, hm, hfound, hodd⟩
    exact .interface hm hfound hodd

end Client

/-- What there is to tell of lookups at a node, and of validation with them. -/
structure LookupsFail {σ : Type} (c : Client) (t : Transport σ) : Prop where
  /-- A lookup that gives no answer could not be fetched, or ends in one of the other ways. -/
  declared : ∀ k l e, (c.source t).FailsAt k l e → e.IsAbiFetch ∨ c.Escapes t k l e
  /-- Those are there. -/
  escapes : ∀ k l e, c.Escapes t k l e → (c.source t).FailsAt k l e
  /-- Where every request is replied to, only an interface with something odd in it is one. -/
  replied : t.Replies → ∀ k l e, c.Escapes t k l e ↔ e = .wrongType ∧ ∃ m interface,
    l.module? = some m ∧ (c.module t m.address m.name k).1 = .ok (some interface) ∧
      l.FindsOdd interface
  /-- There is a report on a graph unless a lookup on the way ends in one of the other ways. -/
  reported : ∀ (g : StepGraph) (d : Desk (Knowledge σ)), g.IsProper →
    (∃ report, (validate (c.source t) g d).1 = .ok report) ∨
      ∃ e d' l, d.Leads (c.source t) d' ∧ c.Escapes t d'.source l e ∧
        (validate (c.source t) g d).1 = .error e

/-- **Lookups at a node fail as their port declares**, but for requests that are refused on the way and
for interfaces with something odd in them. -/
theorem lookups_fail_as_declared {σ : Type} (c : Client) (t : Transport σ) : LookupsFail c t where
  declared _ _ _ := Client.escapes_of_failsAt
  escapes _ _ _ := Client.failsAt_of_escapes
  replied ht _ _ _ := Client.escapes_iff_of_replies ht
  reported g d hg := by
    cases h : (validate (c.source t) g d).1 with
    | ok report => exact Or.inl ⟨report, rfl⟩
    | error e =>
      obtain ⟨hne, d', l, hleads, hfails⟩ := leaks_of_validate hg h
      have hescapes := (Client.escapes_of_failsAt hfails).resolve_left hne
      exact Or.inr ⟨e, d', l, hleads, hescapes, rfl⟩

/-! ## An interface that is a number -/

/-- A node that answers every request with an interface whose list of functions is a number. -/
def oddNode : Transport Unit := fun _ s =>
  (.ok (.answer 200 "\x7b\"abi\": \x7b\"exposed_functions\": 5\x7d\x7d"), s)

/-- A lookup ends in another way than its port declares, though every request is replied to. -/
theorem lookup_fails_otherwise : oddNode.Replies ∧
    ∃ e, (homeClient.function oddNode withdraw ⟨[], ()⟩).1 = .error e ∧ ¬e.IsAbiFetch := by
  have hwrong : (match (homeClient.function oddNode withdraw ⟨[], ()⟩).1 with
      | .error .wrongType => true
      | _ => false) = true := by decide +kernel
  refine ⟨fun _ _ => ⟨_, rfl⟩, .wrongType, ?_, by rintro ⟨url, reason, status, h⟩; cases h⟩
  split at hwrong
  next h => exact h
  next => cases hwrong

end Node

end MovePlan
