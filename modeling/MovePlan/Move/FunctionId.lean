import MovePlan.Move.Address
import MovePlan.Text.Quoted

/-!
# Function ids

A function is named by the address of its module, the module and its own name: `0x1::coin::transfer`.
A name carries the proof that each of its parts is well formed.
-/

namespace MovePlan.Move

open Text

namespace FunctionId

/-- Whether a character may begin an identifier. -/
def isIdentifierStart (c : Char) : Bool := c.isAlpha || c == '_'

/-- Whether a character may stand in an identifier. -/
def isIdentifierRest (c : Char) : Bool := c.isAlphanum || c == '_'

/-- Whether a text is an identifier: a letter or underscore of ASCII, then letters, digits and
underscores. -/
def isIdentifier : List Char → Bool
  | [] => false
  | c :: rest => isIdentifierStart c && isFieldEnd (rest.dropWhile isIdentifierRest)

end FunctionId

/-- The name of a function. -/
structure FunctionId where
  address : String
  module : String
  function : String
  isWellFormed_address : Address.isWellFormed address.toList = true := by decide
  isIdentifier_module : FunctionId.isIdentifier module.toList = true := by decide
  isIdentifier_function : FunctionId.isIdentifier function.toList = true := by decide
  deriving DecidableEq, Repr

namespace FunctionId

instance : Inhabited FunctionId := ⟨{ address := "0x1", module := "m", function := "f" }⟩

/-- Why a text is no function id. -/
inductive Fault where
  | parts (count : Nat)
  | address (text : List Char)
  | module (text : List Char)
  | function (text : List Char)
  deriving DecidableEq, Repr

def Fault.reason : Fault → String
  | parts n => s!"expected 3 '::'-separated parts, got {n}"
  | address s => "address " ++ String.ofList (quoted s) ++ " is not a 0x-prefixed hex string"
  | module s => "module " ++ String.ofList (quoted s) ++ " is not an identifier"
  | function s => "function " ++ String.ofList (quoted s) ++ " is not an identifier"

/-- Reads a function id. The three parts are checked from the left. -/
def parseChars (s : List Char) : Except Fault FunctionId :=
  match splitPath s with
  | [a, m, f] =>
    if ha : Address.isWellFormed a then
      if hm : isIdentifier m then
        if hf : isIdentifier f then
          .ok ⟨String.ofList a, String.ofList m, String.ofList f, by simpa using ha,
            by simpa using hm, by simpa using hf⟩
        else .error (.function f)
      else .error (.module m)
    else .error (.address a)
  | parts => .error (.parts parts.length)

def parse (s : String) : Except Fault FunctionId := parseChars s.toList

/-- The module that holds the function. -/
def moduleId (id : FunctionId) : String := id.address ++ "::" ++ id.module

/-- The function id as text. -/
def text (id : FunctionId) : String := id.address ++ "::" ++ id.module ++ "::" ++ id.function

/-! ## Reading the text back -/

theorem colon_not_mem_of_isFieldEnd {s : List Char} (h : isFieldEnd s = true) : ':' ∉ s := by
  simp only [isFieldEnd, Bool.or_eq_true, beq_iff_eq] at h
  rcases h with rfl | rfl <;> simp

/-- A run of characters other than colons and the end of a field hold no colon. -/
theorem colon_not_mem_of_dropWhile {p : Char → Bool} (hp : p ':' = false) :
    ∀ {s : List Char}, isFieldEnd (s.dropWhile p) = true → ':' ∉ s
  | [], _ => by simp
  | c :: rest, h => by
    by_cases hc : p c = true
    · rw [List.dropWhile_cons_of_pos hc] at h
      have hne : ':' ≠ c := fun he => by rw [← he, hp] at hc; cases hc
      simpa [hne] using colon_not_mem_of_dropWhile hp h
    · rw [List.dropWhile_cons_of_neg hc] at h
      exact colon_not_mem_of_isFieldEnd h

theorem colon_not_mem_of_isIdentifier : ∀ {s : List Char}, isIdentifier s = true → ':' ∉ s
  | [], h => by cases h
  | c :: rest, h => by
    rw [isIdentifier, Bool.and_eq_true] at h
    have hne : ':' ≠ c := fun he => by rw [← he] at h; exact absurd h.1 (by decide)
    simpa [hne] using colon_not_mem_of_dropWhile (by decide) h.2

theorem colon_not_mem_of_isWellFormed {s : List Char} (h : Address.isWellFormed s = true) :
    ':' ∉ s := by
  unfold Address.isWellFormed at h
  split at h
  · next rest =>
    simp only [Bool.and_eq_true] at h
    simpa using colon_not_mem_of_dropWhile (by decide) h.2
  · cases h

theorem toList_text (id : FunctionId) : id.text.toList = id.address.toList ++ ':' :: ':' ::
    (id.module.toList ++ ':' :: ':' :: id.function.toList) := by
  simp [text, String.toList_append]

theorem splitPath_text (id : FunctionId) : splitPath id.text.toList =
    [id.address.toList, id.module.toList, id.function.toList] := by
  have ha := colon_not_mem_of_isWellFormed id.isWellFormed_address
  have hm := colon_not_mem_of_isIdentifier id.isIdentifier_module
  have hf := colon_not_mem_of_isIdentifier id.isIdentifier_function
  rw [toList_text, splitPath_append _ ha, splitPath_append _ hm, splitPath_of_not_mem hf]

/-- A function id is read back from its text. -/
theorem parse_text (id : FunctionId) : parse id.text = .ok id := by
  simp only [parse, parseChars, splitPath_text, id.isWellFormed_address, id.isIdentifier_module,
    id.isIdentifier_function, dite_true, String.ofList_toList]

/-- Function ids with one text are one. -/
theorem text_injective {a b : FunctionId} (h : a.text = b.text) : a = b := by
  have hp : parse a.text = .ok b := by rw [h, parse_text]
  rw [parse_text] at hp
  exact Except.ok.inj hp

end FunctionId

end MovePlan.Move
