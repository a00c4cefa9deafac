import MovePlan.Abi.Signature

/-!
# Looking interfaces up

A source answers for functions and structs, and may keep a state of its own from one question to the
next. The cache in front of it asks at most once for what was answered, found or not; a failed
lookup is not stored, so that it is tried again. Whether a type may be dropped is decided from its
form and, for a struct, from the abilities that are looked up.
-/

namespace MovePlan.Abi

open Move

/-- The abilities of a struct. -/
abbrev Abilities := List String

/-- Puts a text before the first greater one; a text that is there already is left out. -/
def insertText (t : String) : List String → List String
  | [] => [t]
  | u :: rest => if t < u then t :: u :: rest else if t = u then u :: rest else u :: insertText t rest

/-- Texts in ascending order, each once. -/
def sortedTexts (xs : List String) : List String := xs.foldr insertText []

/-- Where interfaces are looked up. An answer of none means that there is no such function or
struct. -/
structure Source (σ : Type) where
  function : FunctionId → σ → Except Error (Option Signature) × σ
  struct : String → σ → Except Error (Option Abilities) × σ

/-- The answers so far. -/
structure Cache where
  functions : List (String × Option Signature) := []
  structs : List (String × Option Abilities) := []
  /-- How many functions were asked for. -/
  fetches : Nat := 0
  deriving Inhabited

/-- The cache together with the state of the source. -/
structure Desk (σ : Type) where
  cache : Cache
  source : σ

namespace Desk

variable {σ : Type}

/-- The signature of a function, from the cache or the source. -/
def function (d : Desk σ) (src : Source σ) (id : FunctionId) :
    Except Error (Option Signature) × Desk σ :=
  match d.cache.functions.lookup id.text with
  | some hit => (.ok hit, d)
  | none =>
    match src.function id d.source with
    | (.error e, s) => (.error e, ⟨{ d.cache with fetches := d.cache.fetches + 1 }, s⟩)
    | (.ok sig, s) =>
      (.ok sig,
        ⟨{ d.cache with
            fetches := d.cache.fetches + 1
            functions := d.cache.functions ++ [(id.text, sig)] }, s⟩)

/-- The abilities of a struct, from the cache or the source. -/
def struct (d : Desk σ) (src : Source σ) (id : String) : Except Error (Option Abilities) × Desk σ :=
  match d.cache.structs.lookup id with
  | some hit => (.ok hit, d)
  | none =>
    match src.struct id d.source with
    | (.error e, s) => (.error e, ⟨d.cache, s⟩)
    | (.ok abilities, s) =>
      (.ok abilities, ⟨{ d.cache with structs := d.cache.structs ++ [(id, abilities)] }, s⟩)

end Desk

/-! ## Droppability -/

/-- What decides whether a type may be dropped. -/
inductive DropRule where
  /-- Primitives and references may be dropped. -/
  | always
  /-- It cannot be told, as of a type parameter. -/
  | unknown
  /-- The abilities of a struct decide. -/
  | struct (id : String)
  deriving DecidableEq, Repr

/-- The element of a vector is shorter, so that looking into vectors comes to an end. -/
theorem vectorElementChars?_length {s e : List Char}
    (h : TypeName.vectorElementChars? s = some e) : e.length < s.length := by
  unfold TypeName.vectorElementChars? at h
  split at h
  · next rest =>
    split at h
    · next inner hi =>
      cases h
      have := congrArg List.length hi
      simp at this
      simp
      omega
    · simp at h
  · simp at h

theorem trim_length (s : List Char) : (Text.trim s).length ≤ s.length := by
  unfold Text.trim Text.trimBy Text.dropWhileEnd
  have h1 := (List.dropWhile_sublist (l := s) Text.isBlank).length_le
  have h2 := (List.dropWhile_sublist (l := (s.dropWhile Text.isBlank).reverse)
    Text.isBlank).length_le
  simp at h1 h2 ⊢
  omega

/-- The rule for a type: that of the innermost element for vectors. -/
def dropRule (type : List Char) : DropRule :=
  let s := Text.trim type
  if TypeName.primitives.contains (String.ofList s) || s.head? == some '&' then .always
  else
    match _h : TypeName.vectorElementChars? s with
    | some element => dropRule element
    | none =>
      match TypeName.struct? (String.ofList s) with
      | some id => .struct id
      | none => .unknown
termination_by type.length
decreasing_by
  exact Nat.lt_of_lt_of_le (vectorElementChars?_length _h) (trim_length type)

/-- Whether a value of the type may be dropped; none if that is not known. A lookup that fails
because the node does not answer leaves it unknown. -/
def droppable {σ : Type} (src : Source σ) (type : String) (d : Desk σ) :
    Except Error (Option Bool) × Desk σ :=
  match dropRule type.toList with
  | .always => (.ok (some true), d)
  | .unknown => (.ok none, d)
  | .struct id =>
    match d.struct src id with
    | (.ok none, d) => (.ok none, d)
    | (.ok (some abilities), d) => (.ok (some (abilities.contains "drop")), d)
    | (.error (.abiFetch ..), d) => (.ok none, d)
    | (.error e, d) => (.error e, d)

/-- The same for each type of a list, up to the first error. -/
def droppableAll {σ : Type} (src : Source σ) : List String → Desk σ →
    Except Error (List (Option Bool)) × Desk σ
  | [], d => (.ok [], d)
  | t :: rest, d =>
    match droppable src t d with
    | (.error e, d) => (.error e, d)
    | (.ok flag, d) =>
      match droppableAll src rest d with
      | (.error e, d) => (.error e, d)
      | (.ok flags, d) => (.ok (flag :: flags), d)

end MovePlan.Abi
