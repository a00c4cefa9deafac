import MovePlan.Error
import MovePlan.Text.Case
import MovePlan.Text.Blank
import MovePlan.Text.Word
import MovePlan.Text.Digit

/-!
# Aborts in status texts

A status may tell the code and the place of an abort, in one of two orders: `abort in A::m: NAME(c)`,
where the name and its bracket may be missing, or `abort: c at A::m`. The word is found without
regard to letter case, anywhere in the text. The first order is looked for in the whole text before
the second. A code is a decimal number, or a hexadecimal one after `0x`. How many digits it has does
not matter for where an abort is found, but the value of a decimal number is read only if they are not
too many.

The place is a text without blanks up to a double colon, the first for which the rest fits, and the
word after it.
-/

namespace MovePlan.Diagnosis

open Text

/-- The code and the place of an abort. -/
structure Abort where
  code : Nat
  location : String
  deriving DecidableEq, Repr

/-- A number as it stands in a status: its digits, of base ten or, after `0x`, of base sixteen. -/
structure CodeText where
  hexadecimal : Bool
  digits : List Char
  deriving DecidableEq, Repr

/-- The number itself. There may be any number of hexadecimal digits, but not of decimal ones. -/
def CodeText.value (c : CodeText) : Except Error Nat :=
  if c.hexadecimal then .ok (valueOf 16 hexValue? c.digits)
  else if Numeric.digitLimit < c.digits.length then .error (.numeralTooLong c.digits.length)
  else .ok (valueOf 10 digitValue? c.digits)

/-- An abort as it stands in a status. -/
structure AbortText where
  code : CodeText
  location : String
  deriving DecidableEq, Repr

def AbortText.read (a : AbortText) : Except Error Abort := do
  let code ← a.code.value
  return ⟨code, a.location⟩

/-- The first answer of a reader along a text. -/
def searchFrom {α : Type} (reader : List Char → Option α) : List Char → Option α
  | [] => reader []
  | c :: rest => (reader (c :: rest)).orElse fun _ => searchFrom reader rest

/-- The number at the start of a text and what follows it. -/
def takeCode? (s : List Char) : Option (CodeText × List Char) :=
  let plain (s : List Char) : Option (CodeText × List Char) :=
    let digits := s.takeWhile isDigit
    if digits.isEmpty then none else some (⟨false, digits⟩, s.dropWhile isDigit)
  match s with
  | '0' :: x :: rest =>
    let digits := rest.takeWhile isHexDigit
    if (x = 'x' ∨ x = 'X') ∧ !digits.isEmpty then
      some (⟨true, digits⟩, rest.dropWhile isHexDigit)
    else plain s
  | s => plain s

/-- A place at the start of a text, with `taken` before it, for which the rest fits: the word after
the double colon is read as far as it goes. -/
def takeLocation? {α : Type} (fits : List Char → Option α) (taken : List Char) :
    List Char → Option (List Char × α)
  | [] => none
  | c :: rest =>
    let here : Option (List Char × α) :=
      match taken, c, rest with
      | _ :: _, ':', ':' :: name =>
        let word := name.takeWhile isWord
        if word.isEmpty then none
        else (fits (name.dropWhile isWord)).map fun a =>
          (taken.reverse ++ ':' :: ':' :: word, a)
      | _, _, _ => none
    here.orElse fun _ => if isBlank c then none else takeLocation? fits (c :: taken) rest

/-- The code after a place: a colon, blanks, and a number, which may stand in a bracket after a
word. -/
def codeAfterLocation? (s : List Char) : Option CodeText :=
  match s with
  | ':' :: rest =>
    let rest := rest.dropWhile isBlank
    let bracketed : Option (CodeText × List Char) :=
      match rest.takeWhile isWord, rest.dropWhile isWord with
      | _ :: _, '(' :: inner => takeCode? inner
      | _, _ => none
    (bracketed.orElse fun _ => takeCode? rest).map Prod.fst
  | _ => none

/-- An abort at the start of a text, the place before the code. -/
def abortIn? (s : List Char) : Option AbortText := do
  let rest ← afterCaseless? "abort in ".toList s
  let (location, code) ← takeLocation? codeAfterLocation? [] rest
  return ⟨code, String.ofList location⟩

/-- The place after a code: blanks, `at`, blanks and a place. -/
def locationAfterCode? (s : List Char) : Option (List Char) := do
  let rest := s.dropWhile isBlank
  if rest.length = s.length then none
  let rest ← afterCaseless? ['a', 't'] rest
  let tail := rest.dropWhile isBlank
  if tail.length = rest.length then none
  let (location, _) ← takeLocation? (fun _ => some ()) [] tail
  return location

/-- The code and place after the word for an abort: perhaps a colon, blanks and `code`. -/
def codeThenLocation? (s : List Char) : Option AbortText := do
  let s := match s with
    | ':' :: rest => rest
    | s => s
  let s := s.dropWhile isBlank
  let s := match afterCaseless? ['c', 'o', 'd', 'e'] s with
    | some rest => rest.dropWhile isBlank
    | none => s
  let (code, rest) ← takeCode? s
  let location ← locationAfterCode? rest
  return ⟨code, String.ofList location⟩

/-- Tries the rest of the word for an abort as long as possible first, then shorter and shorter. -/
def longestFirst {α : Type} (reader : List Char → Option α) : List Char → Option α
  | [] => reader []
  | c :: rest =>
    if isWord c then (longestFirst reader rest).orElse fun _ => reader (c :: rest)
    else reader (c :: rest)

/-- An abort at the start of a text, the code before the place. -/
def abortAt? (s : List Char) : Option AbortText := do
  let rest ← afterCaseless? "abort".toList s
  longestFirst codeThenLocation? rest

/-- The abort that a status tells of, as it stands there. -/
def findAbort? (status : String) : Option AbortText :=
  let s := status.toList
  (searchFrom abortIn? s).orElse fun _ => searchFrom abortAt? s

/-- The abort that a status tells of, if any. -/
def parseAbort (status : String) : Except Error (Option Abort) :=
  match findAbort? status with
  | none => .ok none
  | some a => a.read.map some

end MovePlan.Diagnosis
