import MovePlan.Abi.Cache

/-!
# What a lookup gives

A source may fail in one way only: the node did not answer (`Source.FailsOnlyToFetch`). Then the rule
for a type always gives an answer, since a struct that could not be looked up leaves it unknown, and
asking for structs leaves the functions in the cache as they were.
-/

namespace MovePlan.Abi

open Move

variable {σ : Type} {src : Source σ}

/-- Whether every lookup answers or fails because the node does not. -/
structure Source.FailsOnlyToFetch (src : Source σ) : Prop where
  function : ∀ id s e, (src.function id s).1 = .error e →
    ∃ url reason status, e = .abiFetch url reason status
  struct : ∀ id s e, (src.struct id s).1 = .error e →
    ∃ url reason status, e = .abiFetch url reason status

namespace Desk

variable {d : Desk σ} {id : FunctionId}

/-! ## Functions -/

/-- A cached function is not asked for. -/
theorem function_of_cached {hit : Option Signature}
    (h : d.cache.functions.lookup id.text = some hit) : d.function src id = (.ok hit, d) := by
  rw [function, h]

theorem function_of_not_cached (h : d.cache.functions.lookup id.text = none) :
    (d.function src id).1 = (src.function id d.source).1 := by
  rw [function, h]
  obtain ⟨answer, s⟩ := src.function id d.source
  cases answer <;> rfl

/-- Asking for a function keeps what the cache tells of the others. -/
theorem lookup_function_of_ne {other : FunctionId} (h : other ≠ id) :
    (d.function src id).2.cache.functions.lookup other.text =
      d.cache.functions.lookup other.text := by
  have hne : other.text ≠ id.text := fun ht => h (FunctionId.text_injective ht)
  unfold function
  split
  · rfl
  · split
    · rfl
    · simp [List.lookup_append, List.lookup_cons, beq_false_of_ne hne]

/-- A function is not found out only where the source fails. -/
theorem source_function_eq_error {e : Error} (h : (d.function src id).1 = .error e) :
    (src.function id d.source).1 = .error e := by
  cases hc : d.cache.functions.lookup id.text with
  | some hit =>
    rw [function_of_cached hc] at h
    cases h
  | none => rwa [function_of_not_cached hc] at h

/-- Asking for a function fails in the way of its source. -/
theorem function_eq_error (hsrc : src.FailsOnlyToFetch) {e : Error}
    (h : (d.function src id).1 = .error e) : ∃ url reason status, e = .abiFetch url reason status :=
  hsrc.function id d.source e (source_function_eq_error h)

/-! ## Structs -/

/-- A cache adds no failures of its own to those of structs. -/
theorem source_struct_eq_error {struct : String} {e : Error} (h : (d.struct src struct).1 = .error e) :
    (src.struct struct d.source).1 = .error e := by
  unfold Desk.struct at h
  split at h
  · cases h
  · split at h
    · next hs =>
      cases h
      exact congrArg Prod.fst hs
    · cases h

theorem struct_eq_error (hsrc : src.FailsOnlyToFetch) {struct : String} {e : Error}
    (h : (d.struct src struct).1 = .error e) :
    ∃ url reason status, e = .abiFetch url reason status :=
  hsrc.struct struct d.source e (source_struct_eq_error h)

/-- Asking for structs leaves the cached functions as they are. -/
@[simp] theorem functions_struct (src : Source σ) (struct : String) (d : Desk σ) :
    (d.struct src struct).2.cache.functions = d.cache.functions := by
  unfold Desk.struct
  split
  · rfl
  · split <;> rfl

end Desk

/-! ## Droppability -/

@[simp] theorem functions_droppable (src : Source σ) (type : String) (d : Desk σ) :
    (droppable src type d).2.cache.functions = d.cache.functions := by
  unfold droppable
  split
  · rfl
  · rfl
  · next struct _ =>
    have hkeep := Desk.functions_struct src struct d
    split <;> simp_all

/-- For every type it can be told, or is unknown, whether it may be dropped. -/
theorem exists_droppable_eq_ok (hsrc : src.FailsOnlyToFetch) (type : String) (d : Desk σ) :
    ∃ flag, (droppable src type d).1 = .ok flag := by
  unfold droppable
  split
  · exact ⟨_, rfl⟩
  · exact ⟨_, rfl⟩
  · next struct _ =>
    split
    · exact ⟨_, rfl⟩
    · exact ⟨_, rfl⟩
    · exact ⟨_, rfl⟩
    · next hne hs =>
      obtain ⟨url, reason, status, rfl⟩ := Desk.struct_eq_error hsrc (by rw [hs])
      exact absurd rfl (hne url reason status)

@[simp] theorem functions_droppableAll (src : Source σ) (types : List String) (d : Desk σ) :
    (droppableAll src types d).2.cache.functions = d.cache.functions := by
  induction types generalizing d with
  | nil => rfl
  | cons t rest ih =>
    have hfirst := functions_droppable src t d
    rw [droppableAll]
    split
    · next hd => rw [← hfirst, hd]
    · next d' hd =>
      have hrest := ih d'
      rw [hd] at hfirst
      split <;> simp_all

/-- All types of a list are told, one after the other. -/
theorem exists_droppableAll_eq_ok (hsrc : src.FailsOnlyToFetch) (types : List String)
    (d : Desk σ) : ∃ flags, (droppableAll src types d).1 = .ok flags ∧
      flags.length = types.length := by
  induction types generalizing d with
  | nil => exact ⟨[], rfl, rfl⟩
  | cons t rest ih =>
    obtain ⟨flag, hflag⟩ := exists_droppable_eq_ok hsrc t d
    obtain ⟨flags, hflags, hlen⟩ := ih (droppable src t d).2
    refine ⟨flag :: flags, ?_, by simp [hlen]⟩
    rw [droppableAll]
    split
    · next hd =>
      rw [hd] at hflag
      cases hflag
    · next hd =>
      rw [hd] at hflag hflags
      cases hflag
      split
      · next hr =>
        rw [hr] at hflags
        cases hflags
      · next hr =>
        rw [hr] at hflags
        cases hflags
        rfl

end MovePlan.Abi
