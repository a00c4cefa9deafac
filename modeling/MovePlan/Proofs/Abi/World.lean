import MovePlan.Proofs.Abi.Lookup

/-!
# Lookups in a fixed world

In a fixed world a lookup always gives the same answer, found or not, or always fails. The source
that answers for such a world keeps a log of what it is asked.

Whatever is looked up, the cache holds answers of the world only, and all that were given
(`Desk.Coherent`). So the answers do not depend on what the cache holds.
-/

namespace MovePlan.Abi

open Move

/-- A question to a source. -/
inductive Lookup where
  | function (id : FunctionId)
  | struct (id : String)
  deriving DecidableEq

def Lookup.isFunction : Lookup → Bool
  | function _ => true
  | struct _ => false

/-- Answers that do not change. -/
structure World where
  function : FunctionId → Except Error (Option Signature)
  struct : String → Except Error (Option Abilities)

namespace World

/-- The source that answers for a world, with the log of what it was asked. -/
def source (w : World) : Source (List Lookup) where
  function id log := (w.function id, log ++ [.function id])
  struct id log := (w.struct id, log ++ [.struct id])

/-- Whether a lookup does not fail. -/
def Answers (w : World) : Lookup → Prop
  | .function id => ∃ found, w.function id = .ok found
  | .struct id => ∃ found, w.struct id = .ok found

end World

/-- Whether a lookup is answered from the cache. -/
def Cache.Holds (c : Cache) : Lookup → Prop
  | .function id => (c.functions.lookup id.text).isSome
  | .struct id => (c.structs.lookup id).isSome

/-- What is cached stays when a function is added. -/
theorem Cache.Holds.append_function {c : Cache} {l : Lookup} (h : c.Holds l)
    {entry : String × Option Signature} {n : Nat} :
    { c with fetches := n, functions := c.functions ++ [entry] }.Holds l := by
  cases l with
  | function id => simp_all [Cache.Holds, List.lookup_append]
  | struct id => exact h

/-- What is cached stays when a struct is added. -/
theorem Cache.Holds.append_struct {c : Cache} {l : Lookup} (h : c.Holds l)
    {entry : String × Option Abilities} :
    { c with structs := c.structs ++ [entry] }.Holds l := by
  cases l with
  | function id => exact h
  | struct id => simp_all [Cache.Holds, List.lookup_append]

/-! ## Reaching -/

section

variable {σ : Type} {src : Source σ} {d d' d'' : Desk σ}

/-- One state of cache and source leads to another by lookups. -/
inductive Desk.Leads (src : Source σ) : Desk σ → Desk σ → Prop where
  | refl (d : Desk σ) : Leads src d d
  | function {d d' : Desk σ} (id : FunctionId) (h : Leads src (d.function src id).2 d') :
    Leads src d d'
  | struct {d d' : Desk σ} (id : String) (h : Leads src (d.struct src id).2 d') : Leads src d d'

theorem Desk.Leads.trans (h : Leads src d d') (h' : Leads src d' d'') : Leads src d d'' := by
  induction h with
  | refl => exact h'
  | function id _ ih => exact .function id (ih h')
  | struct id _ ih => exact .struct id (ih h')

/-- To judge a type is to ask for the structs in it. -/
theorem leads_droppable (src : Source σ) (type : String) (d : Desk σ) :
    d.Leads src (droppable src type d).2 := by
  unfold droppable
  split
  · exact .refl d
  · exact .refl d
  · next id _ =>
    have hask : d.Leads src (d.struct src id).2 := .struct id (.refl _)
    split <;> simp_all

theorem leads_droppableAll (src : Source σ) (types : List String) (d : Desk σ) :
    d.Leads src (droppableAll src types d).2 := by
  induction types generalizing d with
  | nil => exact .refl d
  | cons t rest ih =>
    have hfirst := leads_droppable src t d
    rw [droppableAll]
    split
    · next hd =>
      rw [hd] at hfirst
      exact hfirst
    · next d' hd =>
      rw [hd] at hfirst
      have hrest := hfirst.trans (ih d')
      split <;> simp_all

end

/-! ## What is kept -/

variable {w : World} {d d' : Desk (List Lookup)}

/-- Whether cache and log are as lookups in a world leave them. -/
structure Desk.Coherent (w : World) (d : Desk (List Lookup)) : Prop where
  /-- The functions that are stored are answers of the world. -/
  functions : ∀ key found, (key, found) ∈ d.cache.functions →
    ∃ id : FunctionId, id.text = key ∧ w.function id = .ok found
  /-- So are the structs. -/
  structs : ∀ id found, (id, found) ∈ d.cache.structs → w.struct id = .ok found
  /-- What was answered is stored. -/
  asked : ∀ l ∈ d.source, w.Answers l → d.cache.Holds l
  once : ∀ l, w.Answers l → d.source.count l ≤ 1
  fetches : d.cache.fetches = d.source.countP Lookup.isFunction

namespace Desk

/-- An empty cache is coherent with every world. -/
theorem coherent_empty (w : World) : Coherent w ⟨{}, []⟩ :=
  ⟨nofun, nofun, nofun, fun _ _ => Nat.zero_le 1, rfl⟩

namespace Coherent

/-- What is cached of a function is what the world knows of it. -/
theorem function_of_lookup (h : d.Coherent w) {id : FunctionId} {hit : Option Signature}
    (hhit : d.cache.functions.lookup id.text = some hit) : w.function id = .ok hit := by
  obtain ⟨before, after, happ, -⟩ := List.lookup_eq_some_iff.mp hhit
  obtain ⟨id', hid, hfound⟩ := h.functions id.text hit (by simp [happ])
  rwa [FunctionId.text_injective hid] at hfound

theorem struct_of_lookup (h : d.Coherent w) {id : String} {hit : Option Abilities}
    (hhit : d.cache.structs.lookup id = some hit) : w.struct id = .ok hit := by
  obtain ⟨before, after, happ, -⟩ := List.lookup_eq_some_iff.mp hhit
  exact h.structs id hit (by simp [happ])

/-- A failed lookup is not stored. -/
theorem answers_of_holds (h : d.Coherent w) {l : Lookup} (hl : d.cache.Holds l) : w.Answers l := by
  cases l with
  | function id =>
    obtain ⟨hit, hhit⟩ := Option.isSome_iff_exists.mp hl
    exact ⟨hit, h.function_of_lookup hhit⟩
  | struct id =>
    obtain ⟨hit, hhit⟩ := Option.isSome_iff_exists.mp hl
    exact ⟨hit, h.struct_of_lookup hhit⟩

/-- The answer is that of the world, from the cache or not. -/
theorem fst_function (h : d.Coherent w) (id : FunctionId) :
    (d.function w.source id).1 = w.function id := by
  cases hc : d.cache.functions.lookup id.text with
  | some hit => rw [function_of_cached hc, h.function_of_lookup hc]
  | none => rw [function_of_not_cached hc]; rfl

/-- What is cached of structs does not matter for what is answered. -/
theorem fst_struct (h : d.Coherent w) (id : String) :
    (d.struct w.source id).1 = w.struct id := by
  unfold Desk.struct
  split
  next hit hc => rw [h.struct_of_lookup hc]
  next => split <;> simp_all [World.source]

/-- One more question that the cache has no answer to, after which it has lost nothing and stores
the answer, if there is one. -/
theorem ask (h : d.Coherent w) {c : Cache} {l : Lookup} (hl : ¬d.cache.Holds l)
    (hfunctions : ∀ key found, (key, found) ∈ c.functions →
      ∃ id : FunctionId, id.text = key ∧ w.function id = .ok found)
    (hstructs : ∀ id found, (id, found) ∈ c.structs → w.struct id = .ok found)
    (hkeep : ∀ l', d.cache.Holds l' → c.Holds l') (hnew : w.Answers l → c.Holds l)
    (hfetches : c.fetches = d.cache.fetches + if l.isFunction then 1 else 0) :
    Coherent w ⟨c, d.source ++ [l]⟩ := by
  refine ⟨hfunctions, hstructs, fun l' hmem ha => ?_, fun l' ha => ?_, ?_⟩
  · rcases List.mem_append.mp hmem with hold | hlast
    · exact hkeep l' (h.asked l' hold ha)
    · obtain rfl := List.mem_singleton.mp hlast
      exact hnew ha
  · rw [List.count_append, List.count_singleton]
    by_cases he : l = l'
    · subst he
      -- had it been asked before, the answer would be stored
      have hmem : l ∉ d.source := fun hmem => hl (h.asked l hmem ha)
      simp [List.count_eq_zero_of_not_mem hmem]
    · have honce := h.once l' ha
      simpa [he] using honce
  · rw [hfetches, h.fetches, List.countP_append, List.countP_singleton]

/-- A cache stays coherent when a function is asked for. -/
theorem function (h : d.Coherent w) (id : FunctionId) :
    (d.function w.source id).2.Coherent w := by
  unfold Desk.function
  split
  · exact h
  next hc =>
    have hmiss : ¬d.cache.Holds (.function id) := by simp [Cache.Holds, hc]
    split
    next e s hs =>
      obtain ⟨hw, rfl⟩ := Prod.mk.inj hs
      refine h.ask hmiss h.functions h.structs (fun _ hl => hl) ?_ rfl
      rintro ⟨found, ha⟩
      rw [ha] at hw
      cases hw
    next found s hs =>
      obtain ⟨hw, rfl⟩ := Prod.mk.inj hs
      refine h.ask hmiss (fun key hit hmem => ?_) h.structs (fun _ hl => hl.append_function)
        (fun _ => ?_) rfl
      · rcases List.mem_append.mp hmem with hold | hlast
        · exact h.functions key hit hold
        · obtain ⟨rfl, rfl⟩ := Prod.mk.inj (List.mem_singleton.mp hlast)
          exact ⟨id, rfl, hw⟩
      · simp [Cache.Holds, List.lookup_append]

/-- A cache stays coherent when a struct is asked for. -/
theorem struct (h : d.Coherent w) (id : String) : (d.struct w.source id).2.Coherent w := by
  unfold Desk.struct
  split
  · exact h
  next hc =>
    have hmiss : ¬d.cache.Holds (.struct id) := by simp [Cache.Holds, hc]
    split
    next e s hs =>
      obtain ⟨hw, rfl⟩ := Prod.mk.inj hs
      refine h.ask hmiss h.functions h.structs (fun _ hl => hl) ?_ rfl
      rintro ⟨found, ha⟩
      rw [ha] at hw
      cases hw
    next found s hs =>
      obtain ⟨hw, rfl⟩ := Prod.mk.inj hs
      refine h.ask hmiss h.functions (fun key hit hmem => ?_) (fun _ hl => hl.append_struct)
        (fun _ => ?_) rfl
      · rcases List.mem_append.mp hmem with hold | hlast
        · exact h.structs key hit hold
        · obtain ⟨rfl, rfl⟩ := Prod.mk.inj (List.mem_singleton.mp hlast)
          exact hw
      · simp [Cache.Holds, List.lookup_append]

/-- Whatever is looked up, cache and log stay as they should be. -/
theorem of_leads (h : d.Coherent w) (hl : d.Leads w.source d') : d'.Coherent w := by
  induction hl with
  | refl => exact h
  | function id _ ih => exact ih (h.function id)
  | struct id _ ih => exact ih (h.struct id)

end Coherent

end Desk

/-! ## The same answers -/

/-- A type is judged the same whatever is cached. -/
theorem fst_droppable_eq (h : d.Coherent w) (h' : d'.Coherent w) (type : String) :
    (droppable w.source type d).1 = (droppable w.source type d').1 := by
  unfold droppable
  split
  · rfl
  · rfl
  next id _ =>
    have hsame : (d.struct w.source id).1 = (d'.struct w.source id).1 := by
      rw [h.fst_struct, h'.fst_struct]
    rcases hd : d.struct w.source id with ⟨answer, e⟩
    rcases hd' : d'.struct w.source id with ⟨answer', e'⟩
    rw [hd, hd'] at hsame
    subst hsame
    split <;> simp_all

theorem fst_droppableAll_eq (h : d.Coherent w) (h' : d'.Coherent w) (types : List String) :
    (droppableAll w.source types d).1 = (droppableAll w.source types d').1 := by
  induction types generalizing d d' with
  | nil => rfl
  | cons t rest ih =>
    have hfirst := fst_droppable_eq h h' t
    -- one of the caches may have had the first struct, so they go on from different states
    have hrest := ih (h.of_leads (leads_droppable w.source t d))
      (h'.of_leads (leads_droppable w.source t d'))
    rw [droppableAll, droppableAll]
    rcases hd : droppable w.source t d with ⟨flag, e⟩
    rcases hd' : droppable w.source t d' with ⟨flag', e'⟩
    rw [hd, hd'] at hfirst hrest
    subst hfirst
    cases flag with
    | error => rfl
    | ok flag =>
      simp only
      rcases hr : droppableAll w.source rest e with ⟨flags, f⟩
      rcases hr' : droppableAll w.source rest e' with ⟨flags', f'⟩
      rw [hr, hr'] at hrest
      subst hrest
      cases flags <;> rfl

end MovePlan.Abi
