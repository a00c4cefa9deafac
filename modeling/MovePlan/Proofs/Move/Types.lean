import MovePlan.Move.FunctionId
import MovePlan.Move.TypeName
import MovePlan.Proofs.Text.Ascii
import MovePlan.Proofs.Text.Blank
import MovePlan.Proofs.Text.Numeral

/-!
# Types and their texts

The types of the language, and how they are written. What can be told from the text of a type by its
beginning and its end is what can be told from the type: the text of a vector begins and ends like that
of no other type, and gives back the text of its element (`vectorElementChars?_write`); a struct gives
back its name, whatever stands in its brackets (`struct?_write`).
-/

namespace MovePlan.Move

open Text Numeric

/-! ## The types -/

/-- Whether a text can stand between the colons of a name: letters, digits and underscores. -/
def IsWord (s : List Char) : Prop := s ≠ [] ∧ s.all FunctionId.isIdentifierRest = true

/-- The name of a struct. -/
structure StructName where
  address : String
  module : String
  name : String
  isWord_address : IsWord address.toList
  isWord_module : IsWord module.toList
  isWord_name : IsWord name.toList

/-- The name of a struct as text. -/
def StructName.text (n : StructName) : String := n.address ++ "::" ++ n.module ++ "::" ++ n.name

/-- Types without parts. -/
inductive Primitive where
  | bool
  | u8
  | u16
  | u32
  | u64
  | u128
  | u256
  | address
  | signer
  deriving DecidableEq, Repr

def Primitive.word : Primitive → String
  | bool => "bool"
  | u8 => "u8"
  | u16 => "u16"
  | u32 => "u32"
  | u64 => "u64"
  | u128 => "u128"
  | u256 => "u256"
  | address => "address"
  | signer => "signer"

/-- A type. -/
inductive MoveType where
  | primitive (p : Primitive)
  | reference (mutable : Bool) (target : MoveType)
  | vector (element : MoveType)
  | struct (name : StructName) (arguments : List MoveType)
  /-- A generic parameter, by its number. -/
  | parameter (index : Nat)

namespace MoveType

/-- The struct that the innermost element of a type is. -/
def struct? : MoveType → Option StructName
  | vector element => element.struct?
  | struct name _ => some name
  | _ => none

mutual

/-- The text of a type; arguments are separated by a given text. -/
def write (separator : List Char) : MoveType → List Char
  | primitive p => p.word.toList
  | reference mutable target =>
    '&' :: ((if mutable then "mut ".toList else []) ++ write separator target)
  | vector element => "vector<".toList ++ (write separator element ++ ['>'])
  | struct name arguments =>
    name.text.toList ++
      if arguments.isEmpty then [] else '<' :: (writeEach separator arguments ++ ['>'])
  | parameter index => 'T' :: natText index

/-- The texts of types with separators between them. -/
def writeEach (separator : List Char) : List MoveType → List Char
  | [] => []
  | t :: rest =>
    write separator t ++ if rest.isEmpty then [] else separator ++ writeEach separator rest

end

end MoveType

/-! ## Words and names -/

variable {s e rest : List Char} {c : Char}

theorem isBlank_of_isIdentifierRest (h : FunctionId.isIdentifierRest c = true) :
    isBlank c = false := by
  rcases Bool.or_eq_true_iff.mp h with h | h
  · exact isBlank_of_isAlphanum h
  · rw [beq_iff_eq.mp h]
    decide

theorem IsWord.isIdentifierRest (hs : IsWord s) (hc : c ∈ s) :
    FunctionId.isIdentifierRest c = true := List.all_eq_true.mp hs.2 c hc

/-- No separator stands in a word. -/
theorem IsWord.not_mem (hs : IsWord s) (hc : FunctionId.isIdentifierRest c = false) : c ∉ s := by
  intro hmem
  rw [hs.isIdentifierRest hmem] at hc
  cases hc

namespace StructName

variable (n : StructName)

/-- The name of a struct is its three parts with colons in between. -/
theorem toList_text : n.text.toList = n.address.toList ++ ':' :: ':' ::
    (n.module.toList ++ ':' :: ':' :: n.name.toList) := by
  simp [text, String.toList_append]

/-- Apart from the colons, it has only the characters of words. -/
theorem mem_text (h : c ∈ n.text.toList) : FunctionId.isIdentifierRest c = true ∨ c = ':' := by
  rw [toList_text] at h
  simp only [List.mem_append, List.mem_cons] at h
  rcases h with h | h | h | h | h | h | h
  · exact Or.inl (n.isWord_address.isIdentifierRest h)
  · exact Or.inr h
  · exact Or.inr h
  · exact Or.inl (n.isWord_module.isIdentifierRest h)
  · exact Or.inr h
  · exact Or.inr h
  · exact Or.inl (n.isWord_name.isIdentifierRest h)

theorem isBlank_of_mem_text (h : c ∈ n.text.toList) : isBlank c = false := by
  rcases n.mem_text h with h | rfl
  · exact isBlank_of_isIdentifierRest h
  · decide

theorem angle_not_mem_text : '<' ∉ n.text.toList := by
  intro h
  rcases n.mem_text h with h | h
  · exact absurd h (by decide)
  · exact absurd h (by decide)

theorem colon_mem_text : ':' ∈ n.text.toList := by simp [toList_text]

theorem text_ne_nil : n.text.toList ≠ [] := List.ne_nil_of_mem n.colon_mem_text

/-- The three parts are read back from the name. -/
theorem splitPath_text : splitPath n.text.toList =
    [n.address.toList, n.module.toList, n.name.toList] := by
  have hcolon : FunctionId.isIdentifierRest ':' = false := by decide
  rw [toList_text, splitPath_append _ (n.isWord_address.not_mem hcolon),
    splitPath_append _ (n.isWord_module.not_mem hcolon),
    splitPath_of_not_mem (n.isWord_name.not_mem hcolon)]

end StructName

/-! ## Ends of texts -/

/-- A text that ends in a bracket has nothing to be trimmed behind it. -/
theorem trim_append_bracket (hs : ∀ c ∈ s, isBlank c = false) (hne : s ≠ []) (rest : List Char) :
    trim (s ++ (rest ++ ['>'])) = s ++ (rest ++ ['>']) := by
  have hend : dropWhileEnd isBlank (rest ++ ['>']) = rest ++ ['>'] := by
    rw [dropWhileEnd, List.reverse_append, List.reverse_singleton, List.singleton_append,
      List.dropWhile_cons_of_neg (by decide), List.reverse_cons, List.reverse_reverse]
  rw [trim, trimBy_append hs hne, hend]

/-- A text is read as a vector exactly if it is written as one. -/
theorem vectorElementChars?_eq_some_iff :
    TypeName.vectorElementChars? s = some e ↔ s = "vector<".toList ++ (e ++ ['>']) := by
  constructor
  · intro h
    unfold TypeName.vectorElementChars? at h
    split at h
    next rest =>
      split at h
      next inner hinner =>
        obtain rfl := Option.some.inj h
        have hrest := congrArg List.reverse hinner
        rw [List.reverse_reverse, List.reverse_cons] at hrest
        rw [hrest]
        rfl
      next => cases h
    next => cases h
  · rintro rfl
    unfold TypeName.vectorElementChars?
    split
    next rest hrest =>
      obtain rfl : rest = e ++ ['>'] := by simpa using hrest.symm
      simp
    next hother => exact absurd rfl (hother (e ++ ['>']))

/-! ## Texts of types -/

namespace MoveType

variable (separator : List Char)

theorem write_vector (t : MoveType) :
    write separator (vector t) = "vector<".toList ++ (write separator t ++ ['>']) := rfl

theorem write_reference (mutable : Bool) (t : MoveType) : write separator (reference mutable t) =
    ['&'] ++ ((if mutable then "mut ".toList else []) ++ write separator t) := rfl

/-- A written vector begins and ends without blanks. -/
theorem trim_write_vector (t : MoveType) :
    trim (write separator (vector t)) = write separator (vector t) := by
  have hfront : "vector<".toList.any isBlank = false := by decide
  rw [write_vector]
  exact trim_append_bracket (fun c hc => by simpa using List.any_eq_false.mp hfront c hc)
    (by decide) _

/-- The text of a reference still begins with its mark when it is trimmed. -/
theorem head?_trim_write_reference (mutable : Bool) (t : MoveType) :
    (trim (write separator (reference mutable t))).head? = some '&' := by
  have hmark : ∀ c ∈ ['&'], isBlank c = false := List.forall_mem_singleton.mpr (by decide)
  rw [write_reference, trim, trimBy_append hmark (List.cons_ne_nil _ _)]
  rfl

/-- The text of a struct is its name, and perhaps arguments in brackets. -/
theorem write_struct (n : StructName) (arguments : List MoveType) :
    ∃ rest, write separator (struct n arguments) = n.text.toList ++ rest ∧
      (rest = [] ∨ ∃ inner, rest = '<' :: (inner ++ ['>'])) := by
  cases arguments with
  | nil => exact ⟨[], rfl, Or.inl rfl⟩
  | cons t more => exact ⟨_, rfl, Or.inr ⟨_, rfl⟩⟩

/-- A written struct begins and ends without blanks. -/
theorem trim_write_struct (n : StructName) (arguments : List MoveType) :
    trim (write separator (struct n arguments)) = write separator (struct n arguments) := by
  obtain ⟨rest, hwrite, rfl | ⟨inner, rfl⟩⟩ := write_struct separator n arguments
  · rw [hwrite, List.append_nil, trim, trimBy_eq_self fun c => n.isBlank_of_mem_text]
  · rw [hwrite, ← List.cons_append]
    exact trim_append_bracket (fun c => n.isBlank_of_mem_text) n.text_ne_nil _

/-- The name of a written struct ends where its arguments begin. -/
theorem beforeGenerics_write_struct (n : StructName) (arguments : List MoveType) :
    beforeGenerics (write separator (struct n arguments)) = n.text.toList := by
  have hname : ∀ c ∈ n.text.toList, (c != '<') = true := fun c hc =>
    bne_iff_ne.mpr fun he => n.angle_not_mem_text (he ▸ hc)
  obtain ⟨rest, hwrite, hrest⟩ := write_struct separator n arguments
  have hstop : rest.takeWhile (· != '<') = [] := by
    rcases hrest with rfl | ⟨inner, rfl⟩
    · rfl
    · exact List.takeWhile_cons_of_neg (by decide)
  rw [hwrite, beforeGenerics, List.takeWhile_append_of_pos hname, hstop, List.append_nil]

/-- A struct gives back its name. -/
theorem struct?_write_struct (n : StructName) (arguments : List MoveType) :
    TypeName.struct? (String.ofList (write separator (struct n arguments))) = some n.text := by
  have hne : ∀ {s : List Char}, IsWord s → s.isEmpty = false := fun h =>
    List.isEmpty_eq_false_iff.mpr h.1
  simp only [TypeName.struct?, String.toList_ofList, trim_write_struct,
    beforeGenerics_write_struct, StructName.splitPath_text, hne n.isWord_address,
    hne n.isWord_module, hne n.isWord_name, Bool.or_self, Bool.false_eq_true, if_false,
    String.ofList_toList]

/-- The text of a struct is that of no vector: there are colons before the first bracket. -/
theorem vectorElementChars?_write_struct (n : StructName) (arguments : List MoveType) :
    TypeName.vectorElementChars? (write separator (struct n arguments)) = none := by
  rw [Option.eq_none_iff_forall_ne_some]
  intro e he
  have hbefore := congrArg beforeGenerics (vectorElementChars?_eq_some_iff.mp he)
  rw [beforeGenerics_write_struct] at hbefore
  have hcolon := n.colon_mem_text
  rw [hbefore] at hcolon
  exact absurd hcolon (by simp [beforeGenerics])

theorem colon_mem_write_struct (n : StructName) (arguments : List MoveType) :
    ':' ∈ write separator (struct n arguments) := by
  obtain ⟨rest, hwrite, -⟩ := write_struct separator n arguments
  rw [hwrite]
  exact List.mem_append_left _ n.colon_mem_text

/-- No struct is written like a reference. -/
theorem head?_write_struct (n : StructName) (arguments : List MoveType) :
    (write separator (struct n arguments)).head? ≠ some '&' := by
  obtain ⟨rest, hwrite, -⟩ := write_struct separator n arguments
  rw [hwrite, List.head?_append_of_ne_nil _ n.text_ne_nil]
  intro h
  rcases n.mem_text (List.mem_of_head? h) with hc | hc
  · exact absurd hc (by decide)
  · exact absurd hc (by decide)

theorem write_parameter (index : Nat) :
    write separator (parameter index) = 'T' :: natText index := rfl

/-- A generic parameter is written as one word. -/
theorem isWord_write_parameter (index : Nat) : IsWord (write separator (parameter index)) := by
  rw [write_parameter]
  refine ⟨List.cons_ne_nil _ _, List.all_eq_true.mpr fun c hc => ?_⟩
  rcases List.mem_cons.mp hc with rfl | hc
  · decide
  · have hdigit := isDigit_of_mem_natText hc
    simp [FunctionId.isIdentifierRest, Char.isAlphanum, hdigit]

theorem trim_write_parameter (index : Nat) :
    trim (write separator (parameter index)) = write separator (parameter index) :=
  trimBy_eq_self fun _ hc =>
    isBlank_of_isIdentifierRest ((isWord_write_parameter separator index).isIdentifierRest hc)

/-- The text of a generic parameter is that of no vector: it begins with another letter. -/
theorem vectorElementChars?_write_parameter (index : Nat) :
    TypeName.vectorElementChars? (write separator (parameter index)) = none := by
  rw [Option.eq_none_iff_forall_ne_some]
  intro e he
  have hfirst := congrArg List.head? (vectorElementChars?_eq_some_iff.mp he)
  rw [write_parameter, List.head?_cons] at hfirst
  exact absurd hfirst (by simp)

/-- A generic parameter names no struct. -/
theorem struct?_write_parameter (index : Nat) :
    TypeName.struct? (String.ofList (write separator (parameter index))) = none := by
  have hword := isWord_write_parameter separator index
  have hbefore : beforeGenerics (write separator (parameter index)) =
      write separator (parameter index) :=
    List.takeWhile_eq_self_iff.mpr fun c hc => bne_iff_ne.mpr fun he =>
      hword.not_mem (c := '<') (by decide) (he ▸ hc)
  simp only [TypeName.struct?, String.toList_ofList, trim_write_parameter, hbefore,
    splitPath_of_not_mem (hword.not_mem (c := ':') (by decide))]

end MoveType

end MovePlan.Move
