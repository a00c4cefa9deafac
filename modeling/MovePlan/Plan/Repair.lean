import MovePlan.Plan.Decode
import MovePlan.Text.Numeral

/-!
# Repair of written plans

Plans that are written by hand or by a program that is not careful have slips of form that leave no
doubt about what is meant. They are repaired before decoding, so that the faults that decoding finds
are real ones. Each repair names the field that it changed; all other fields stay as they are.
-/

namespace MovePlan.Plan

open Graph Text

/-- A slip of form. -/
inductive Slip where
  /-- An output index that is written as a text. -/
  | returnIndex
  /-- A mode in another spelling. -/
  | mode
  /-- An argument's kind in other letter case or between blanks. -/
  | kind
  /-- A function whose address lacks its `0x`. -/
  | function
  /-- Type arguments that are null. -/
  | typeArguments
  /-- A token's decimals that are written as a text. -/
  | decimals
  deriving DecidableEq, Repr

def Slip.name : Slip → String
  | returnIndex => "return_index_string_to_int"
  | mode => "ref_mode_spelling"
  | kind => "arg_kind_case"
  | function => "function_address_missing_0x_prefix"
  | typeArguments => "type_arguments_null_to_empty"
  | decimals => "token_decimals_string_to_int"

/-- The part of a plan that a slip is in. -/
inductive Place where
  | step (i : Nat)
  | arg (i j : Nat)
  | token (i : Nat)
  deriving DecidableEq, Repr

def Place.text : Place → String
  | step i => s!"steps[{i}]"
  | arg i j => s!"steps[{i}].args[{j}]"
  | token i => s!"tokens[{i}]"

/-- A repaired slip. -/
structure Correction where
  place : Place
  slip : Slip
  deriving DecidableEq, Repr

def Correction.text (c : Correction) : String := c.place.text ++ ": " ++ c.slip.name

/-! ## Single fields -/

/-- Whether a text is 1 to 64 hexadecimal digits. -/
def isBareHex (s : List Char) : Bool :=
  let digits := s.takeWhile isHexDigit
  1 ≤ digits.length && digits.length ≤ Move.addressDigits && isFieldEnd (s.dropWhile isHexDigit)

/-- A function id with its address's `0x` put in front, if that is what it lacks. -/
def repairFunction? (s : List Char) : Option (List Char) :=
  let s := trim s
  match cutPath? s with
  | some (head, _) =>
    if (lower head).take 2 ≠ ['0', 'x'] ∧ isBareHex head then some ('0' :: 'x' :: s) else none
  | none => none

/-- The words for the kinds of arguments. -/
def kindWords : List String := ["signer", "literal", "ref"]

/-- A kind in lower case and without blanks around it, if it was not so. -/
def repairKind? (s : String) : Option String :=
  let plain := String.ofList (lower (trim s.toList))
  if !kindWords.contains s && kindWords.contains plain then some plain else none

/-- The small letters of ASCII in a text that is put in lower case. -/
def letters (s : String) : List Char := (lower s.toList).filter fun c => 'a' ≤ c && c ≤ 'z'

/-- The modes by their letters alone. -/
def modeOfLetters? (s : List Char) : Option Mode :=
  Mode.all.find? fun m => m.word.toList.filter (· != '_') == s

/-- The mode that another spelling means. -/
def repairMode? (s : String) : Option Mode :=
  if (Mode.ofWord? s).isSome then none else modeOfLetters? (letters s)

/-- The integer that a text spells. -/
def repairInteger? (j : Json) : Option Int := j.text?.bind fun s => readInt? (trim s.toList)

/-! ## Arguments, steps and tokens -/

/-- Fields and the slips that were repaired in them. -/
structure Repaired where
  fields : Json.Fields
  slips : List Slip := []

/-- Fields in which nothing is repaired yet. -/
def Repaired.none (fields : Json.Fields) : Repaired := { fields }

/-- Sets a field if there is a repaired value for it. -/
def Repaired.set (r : Repaired) (slip : Slip) (key : String) (value : Option Json) : Repaired :=
  match value with
  | .none => r
  | .some v => ⟨Json.setField key v r.fields, r.slips ++ [slip]⟩

/-- The value of a field, null if there is none. -/
def valueOfField (fields : Json.Fields) (key : String) : Json :=
  (Json.field? key fields).getD .null

def repairArg (fields : Json.Fields) : Repaired :=
  let r := (Repaired.none fields).set .kind "kind"
    (((valueOfField fields "kind").text?.bind repairKind?).map Json.str)
  match (valueOfField r.fields "kind").text? with
  | some "ref" =>
    let r := r.set .returnIndex "returnIndex"
      ((repairInteger? (valueOfField r.fields "returnIndex")).map Json.int)
    r.set .mode "mode"
      (((valueOfField r.fields "mode").text?.bind repairMode?).map fun m => Json.str m.word)
  | _ => r

/-- Repairs the argument at a place; a value that is no object stays. -/
def repairArgAt (place : Place) : Json → Json × List Correction
  | .obj fields =>
    let r := repairArg fields
    (.obj r.fields, r.slips.map (⟨place, ·⟩))
  | j => (j, [])

/-- Repairs the items of a list from the place `i` on. -/
def repairEach (repair : Nat → Json → Json × List Correction) (i : Nat) :
    List Json → List Json × List Correction
  | [] => ([], [])
  | j :: rest =>
    let (j, here) := repair i j
    let (js, later) := repairEach repair (i + 1) rest
    (j :: js, here ++ later)

/-- Null type arguments become an empty list. -/
def repairTypeArguments? (fields : Json.Fields) : Option Json :=
  match Json.field? "typeArguments" fields with
  | some .null => some (.arr [])
  | _ => none

/-- Repairs the function and the type arguments of a step. -/
def repairHead (fields : Json.Fields) : Repaired :=
  let r := (Repaired.none fields).set .function "function"
    (((valueOfField fields "function").text?.bind fun s => repairFunction? s.toList).map
      fun s => Json.str (String.ofList s))
  r.set .typeArguments "typeArguments" (repairTypeArguments? r.fields)

/-- Repairs the step at the place `i`. -/
def repairStep (i : Nat) : Json → Json × List Correction
  | .obj fields =>
    let r := repairHead fields
    let head := r.slips.map (⟨.step i, ·⟩)
    match valueOfField r.fields "args" with
    | .arr args =>
      let (args, corrections) := repairEach (fun j => repairArgAt (.arg i j)) 0 args
      (.obj (Json.setField "args" (.arr args) r.fields), head ++ corrections)
    | _ => (.obj r.fields, head)
  | j => (j, [])

/-- Repairs the token at the place `i`. -/
def repairToken (i : Nat) : Json → Json × List Correction
  | .obj fields =>
    let r := (Repaired.none fields).set .decimals "decimals"
      ((repairInteger? (valueOfField fields "decimals")).map Json.int)
    (.obj r.fields, r.slips.map (⟨.token i, ·⟩))
  | j => (j, [])

/-- Repairs the items of a list field. -/
def repairList (key : String) (repair : Nat → Json → Json × List Correction)
    (fields : Json.Fields) : Json.Fields × List Correction :=
  match valueOfField fields key with
  | .arr items =>
    let (items, corrections) := repairEach repair 0 items
    (Json.setField key (.arr items) fields, corrections)
  | _ => (fields, [])

/-- Repairs a plan: the steps first, then the tokens. -/
def repair : Json → Json × List Correction
  | .obj fields =>
    let (fields, steps) := repairList "steps" repairStep fields
    let (fields, tokens) := repairList "tokens" repairToken fields
    (.obj fields, steps ++ tokens)
  | j => (j, [])

/-- How often each slip was repaired, in order of first repair. -/
def histogram (corrections : List Correction) : List (Slip × Nat) :=
  (StepGraph.distinct (corrections.map Correction.slip)).map fun s =>
    (s, (corrections.filter fun c => c.slip == s).length)

end MovePlan.Plan
