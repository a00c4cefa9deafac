import MovePlan.Proofs.Abi.World
import MovePlan.Proofs.Move.Types

/-!
# Droppability by the structure of a type

Whether a type may be dropped is read off its text, by what that begins and ends with. For a text that is
written from a type it comes to what the type is: the rule of a vector is that of its element
(`dropRule_vector`), and the rule of a struct that of its name, whatever its arguments are. So at most
one struct is asked for, the one that the innermost element is.
-/

namespace MovePlan.Abi

open Move Text TypeName MoveType

/-! ## The rule for each type -/

section Rule

variable {s e : List Char} {separator : List Char}

/-- Whether the text is that of a primitive or a reference. -/
def isPlain (s : List Char) : Bool := primitives.contains (String.ofList s) || s.head? == some '&'

/-- The rule for a plain type does not look inside. -/
theorem dropRule_of_plain (h : isPlain (trim s) = true) : dropRule s = .always := by
  rw [dropRule]
  exact if_pos h

/-- A vector has the rule of its elements. -/
theorem dropRule_of_vector (h : isPlain (trim s) = false)
    (hv : vectorElementChars? (trim s) = some e) : dropRule s = dropRule e := by
  have hplain : ¬ isPlain (trim s) = true := by simp [h]
  rw [dropRule]
  refine (if_neg hplain).trans ?_
  split
  next e' he' =>
    rw [hv] at he'
    rw [Option.some.inj he']
  next hnone => rw [hv] at hnone; cases hnone

/-- Every other text is a struct or unknown. -/
theorem dropRule_of_other (h : isPlain (trim s) = false)
    (hv : vectorElementChars? (trim s) = none) :
    dropRule s = match struct? (String.ofList (trim s)) with
      | some id => .struct id
      | none => .unknown := by
  have hplain : ¬ isPlain (trim s) = true := by simp [h]
  rw [dropRule]
  refine (if_neg hplain).trans ?_
  split
  next e' he' => rw [hv] at he'; cases he'
  next => cases struct? (String.ofList (trim s)) <;> rfl

/-- Primitives are written without brackets, colons and the letter of generic parameters. -/
theorem isPlain_eq_false {c : Char} (hc : c ∈ ['<', ':', 'T']) (hmem : c ∈ s)
    (hhead : s.head? ≠ some '&') : isPlain s = false := by
  have hnone : ['<', ':', 'T'].all (fun c => primitives.all fun p => !p.toList.contains c) = true := by
    decide
  rw [isPlain, Bool.or_eq_false_iff, beq_eq_false_iff_ne]
  refine ⟨?_, hhead⟩
  rw [← Bool.not_eq_true, List.contains_iff_mem]
  intro hp
  have hp' := List.all_eq_true.mp (List.all_eq_true.mp hnone c hc) _ hp
  rw [String.toList_ofList, List.contains_iff_mem.mpr hmem] at hp'
  cases hp'

/-- A primitive type is always dropped. -/
theorem dropRule_primitive (p : Primitive) : dropRule (write separator (primitive p)) = .always := by
  have hplain : isPlain (trim p.word.toList) = true := by cases p <;> decide
  exact dropRule_of_plain hplain

/-- A reference is always dropped, whatever it refers to. -/
theorem dropRule_reference (mutable : Bool) (t : MoveType) :
    dropRule (write separator (reference mutable t)) = .always := by
  refine dropRule_of_plain ?_
  rw [isPlain, head?_trim_write_reference, beq_self_eq_true, Bool.or_true]

/-- **The rule of a vector is that of its element.** -/
theorem dropRule_vector (t : MoveType) :
    dropRule (write separator (vector t)) = dropRule (write separator t) := by
  have hplain : isPlain (trim (write separator (vector t))) = false := by
    rw [trim_write_vector, write_vector]
    exact isPlain_eq_false (c := '<') (by decide) (by simp) (by simp)
  refine dropRule_of_vector hplain ?_
  rw [trim_write_vector, vectorElementChars?_eq_some_iff]
  exact write_vector separator t

/-- A struct is looked up without its arguments. -/
theorem dropRule_struct (name : StructName) (arguments : List MoveType) :
    dropRule (write separator (struct name arguments)) = .struct name.text := by
  have hplain : isPlain (trim (write separator (struct name arguments))) = false := by
    rw [trim_write_struct]
    exact isPlain_eq_false (c := ':') (by decide) (colon_mem_write_struct separator name arguments)
      (head?_write_struct separator name arguments)
  rw [dropRule_of_other hplain]
  · rw [trim_write_struct, struct?_write_struct]
  · rw [trim_write_struct, vectorElementChars?_write_struct]

/-- A type parameter stands for no struct. -/
theorem dropRule_parameter (index : Nat) :
    dropRule (write separator (parameter index)) = .unknown := by
  have hplain : isPlain (trim (write separator (parameter index))) = false := by
    rw [trim_write_parameter, write_parameter]
    exact isPlain_eq_false (c := 'T') (by decide) List.mem_cons_self (by simp)
  rw [dropRule_of_other hplain]
  · rw [trim_write_parameter, struct?_write_parameter]
  · rw [trim_write_parameter, vectorElementChars?_write_parameter]

end Rule

/-! ## What is asked, and told -/

/-- Whether a value of a type may be dropped, by the structure of the type and what is found of structs;
none if that is not known. -/
def drops (found : String → Except Error (Option Abilities)) : MoveType → Option Bool
  | primitive _ | reference .. => some true
  | vector element => drops found element
  | struct name _ =>
    match found name.text with
    | .ok (some abilities) => some (decide ("drop" ∈ abilities))
    | .ok none | .error _ => none
  | parameter _ => none

/-- What a source is asked about a type: the struct that its innermost element is, unless that is stored
already. -/
def questions (c : Cache) (t : MoveType) : List Lookup :=
  match t.struct? with
  | some name => if (c.structs.lookup name.text).isSome then [] else [.struct name.text]
  | none => []

variable {σ : Type} {src : Source σ} {separator : List Char}

/-- The state of a source after a question. -/
def Source.ask (src : Source σ) (s : σ) : Lookup → σ
  | .function id => (src.function id s).2
  | .struct id => (src.struct id s).2

/-- A struct that is stored is not asked for, any other once. -/
theorem source_struct (src : Source σ) (id : String) (d : Desk σ) :
    (d.struct src id).2.source =
      (if (d.cache.structs.lookup id).isSome then [] else [.struct id]).foldl src.ask d.source := by
  unfold Desk.struct
  split
  next hit hc => simp [hc]
  next hc =>
    split
    next hs => simp [hc, Source.ask, hs]
    next hs => simp [hc, Source.ask, hs]

/-- **Droppability follows the structure of the type.** Of a type as it is written it is always told, or
unknown, whether it may be dropped, from what is found of the struct that the innermost element is; and
nothing else is asked for. -/
theorem droppable_write (hsrc : src.FailsOnlyToFetch) (separator : List Char) (t : MoveType)
    (d : Desk σ) :
    ∃ after, droppable src (String.ofList (t.write separator)) d =
        (.ok (drops (fun id => (d.struct src id).1) t), after) ∧
      after.source = (questions d.cache t).foldl src.ask d.source := by
  match t with
  | primitive p =>
    rw [droppable, String.toList_ofList, dropRule_primitive]
    exact ⟨d, rfl, rfl⟩
  | reference mutable target =>
    rw [droppable, String.toList_ofList, dropRule_reference]
    exact ⟨d, rfl, rfl⟩
  | parameter index =>
    rw [droppable, String.toList_ofList, dropRule_parameter]
    exact ⟨d, rfl, rfl⟩
  | vector element =>
    rw [droppable, String.toList_ofList, dropRule_vector]
    have ih := droppable_write hsrc separator element d
    rw [droppable, String.toList_ofList] at ih
    exact ih
  | struct name arguments =>
    rw [droppable, String.toList_ofList, dropRule_struct]
    have hsource := source_struct src name.text d
    have hfails : ∀ e, (d.struct src name.text).1 = .error e →
        ∃ url reason status, e = .abiFetch url reason status :=
      fun e => Desk.struct_eq_error hsrc
    simp only [drops, questions, MoveType.struct?]
    generalize d.struct src name.text = out at hsource hfails ⊢
    obtain ⟨answer, d'⟩ := out
    cases answer with
    | error e =>
      obtain ⟨url, reason, status, rfl⟩ := hfails e rfl
      exact ⟨d', rfl, hsource⟩
    | ok found =>
      cases found with
      | none => exact ⟨d', rfl, hsource⟩
      | some abilities => exact ⟨d', by simp, hsource⟩

/-! ## Purses of coins -/

/-- The struct of coins. -/
def coinName : StructName where
  address := "0x7"
  module := "coin"
  name := "Coin"
  isWord_address := ⟨by decide, by decide⟩
  isWord_module := ⟨by decide, by decide⟩
  isWord_name := ⟨by decide, by decide⟩

/-- Vectors of coins of some kind; the kind is given by a generic parameter and a vector. -/
def purses : MoveType :=
  vector (vector (struct coinName [parameter 0, vector (primitive .u8)]))

/-- A world in which only coins are known, which can be stored but not dropped. -/
def purseWorld : World where
  function _ := .ok none
  struct id := .ok (if id = "0x7::coin::Coin" then some ["store"] else none)

theorem failsOnlyToFetch_purseWorld : purseWorld.source.FailsOnlyToFetch :=
  ⟨fun _ _ _ h => (by cases h), fun _ _ _ h => (by cases h)⟩

theorem write_purses : String.ofList (purses.write ", ".toList) =
    "vector<vector<0x7::coin::Coin<T0, vector<u8>>>>" := by
  rfl

theorem droppable_purses : purseWorld.source.FailsOnlyToFetch ∧ ∃ after,
    droppable purseWorld.source "vector<vector<0x7::coin::Coin<T0, vector<u8>>>>" ⟨{}, []⟩ =
      (.ok (some false), after) ∧
    after.source = [.struct "0x7::coin::Coin"] := by
  have h := droppable_write failsOnlyToFetch_purseWorld ", ".toList purses ⟨{}, []⟩
  rw [write_purses] at h
  exact ⟨failsOnlyToFetch_purseWorld, h⟩

end MovePlan.Abi
