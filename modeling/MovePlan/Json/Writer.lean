import MovePlan.Json.Basic
import MovePlan.Text.Quoted

/-!
# Writing JSON

The written form has only printing ASCII: other characters of a string are escaped by their code
units. On one line, items are separated by a comma and a space and keys from values by a colon and a
space; over several lines each item has a line of its own, two spaces further in than what it lies
in, and what is empty stays on one line. Numbers that are not finite are written as words.

A value with an integer that has no text cannot be written (`isWritable`); the forms are those of the
others.
-/

namespace MovePlan.Json

open Numeric Text

/-! ## Strings and numbers -/

/-- The escape of one code unit. -/
def unitEscape (n : Nat) : List Char := '\\' :: 'u' :: hexDigits 4 n

/-- A character inside a string. -/
def writeChar (c : Char) : List Char :=
  if c = '"' then ['\\', '"']
  else if c = '\\' then ['\\', '\\']
  else if c = '\n' then ['\\', 'n']
  else if c = '\r' then ['\\', 'r']
  else if c = '\t' then ['\\', 't']
  else if c = '\x0c' then ['\\', 'f']
  else if c = '\x08' then ['\\', 'b']
  else if 0x20 ≤ c.toNat ∧ c.toNat < 0x7F then [c]
  else if c.toNat < 0x10000 then unitEscape c.toNat
  else
    let n := c.toNat - 0x10000
    unitEscape (0xD800 + n / 0x400) ++ unitEscape (0xDC00 + n % 0x400)

def writeString (s : String) : List Char := '"' :: s.toList.flatMap writeChar ++ ['"']

def writeFloat : Binary64 → List Char
  | .nan => "NaN".toList
  | .infinity false => "Infinity".toList
  | .infinity true => "-Infinity".toList
  | x => x.text

/-! ## One line -/

mutual

/-- A value on one line. -/
def writeLine : Json → List Char
  | null => "null".toList
  | bool true => "true".toList
  | bool false => "false".toList
  | int n => intText n
  | float x => writeFloat x
  | str s => writeString s
  | arr xs => '[' :: writeLineItems xs ++ [']']
  | obj fs => '\x7b' :: writeLineFields fs ++ ['\x7d']

/-- Items on one line. -/
def writeLineItems : List Json → List Char
  | [] => []
  | [x] => writeLine x
  | x :: rest => writeLine x ++ ',' :: ' ' :: writeLineItems rest

/-- Fields on one line. -/
def writeLineFields : List (String × Json) → List Char
  | [] => []
  | [(k, v)] => writeString k ++ ':' :: ' ' :: writeLine v
  | (k, v) :: rest => writeString k ++ ':' :: ' ' :: writeLine v ++ ',' :: ' ' :: writeLineFields rest

end

/-! ## Several lines -/

/-- A line break and the blanks that begin the next line. -/
def newLine (depth : Nat) : List Char := '\n' :: List.replicate (2 * depth) ' '

mutual

/-- A value over several lines, `depth` levels deep. -/
def writeBlock (depth : Nat) : Json → List Char
  | null => "null".toList
  | bool true => "true".toList
  | bool false => "false".toList
  | int n => intText n
  | float x => writeFloat x
  | str s => writeString s
  | arr [] => ['[', ']']
  | arr (x :: xs) =>
    '[' :: newLine (depth + 1) ++ writeBlockItems (depth + 1) (x :: xs) ++ newLine depth ++ [']']
  | obj [] => ['\x7b', '\x7d']
  | obj (f :: fs) =>
    '\x7b' :: newLine (depth + 1) ++ writeBlockFields (depth + 1) (f :: fs) ++ newLine depth
      ++ ['\x7d']

/-- Items, each on a line of its own. -/
def writeBlockItems (depth : Nat) : List Json → List Char
  | [] => []
  | [x] => writeBlock depth x
  | x :: rest => writeBlock depth x ++ ',' :: newLine depth ++ writeBlockItems depth rest

/-- Fields, each on a line of its own. -/
def writeBlockFields (depth : Nat) : List (String × Json) → List Char
  | [] => []
  | [(k, v)] => writeString k ++ ':' :: ' ' :: writeBlock depth v
  | (k, v) :: rest =>
    writeString k ++ ':' :: ' ' :: writeBlock depth v ++ ',' :: newLine depth
      ++ writeBlockFields depth rest

end

/-! ## Order of keys -/

/-- Puts a field before the first one with a greater key. -/
def insertSorted (f : String × Json) : Fields → Fields
  | [] => [f]
  | g :: rest => if f.1 < g.1 then f :: g :: rest else g :: insertSorted f rest

/-- The fields in ascending order of their keys. -/
def sortFields (fields : Fields) : Fields := fields.foldr insertSorted []

mutual

/-- The value with the keys of every object in ascending order. -/
def sorted : Json → Json
  | arr xs => arr (sortedItems xs)
  | obj fs => obj (sortFields (sortedFields fs))
  | j => j

def sortedItems : List Json → List Json
  | [] => []
  | x :: rest => sorted x :: sortedItems rest

def sortedFields : List (String × Json) → List (String × Json)
  | [] => []
  | (k, v) :: rest => (k, sorted v) :: sortedFields rest

end

/-- A value on one line with sorted keys. -/
def line (j : Json) : String := String.ofList (writeLine j.sorted)

/-- A value over several lines with sorted keys. -/
def block (j : Json) : String := String.ofList (writeBlock 0 j.sorted)

/-! ## Values that can be written -/

mutual

/-- Whether all integers in the value have a text. -/
def isWritable : Json → Bool
  | int n => hasText n
  | arr xs => areWritable xs
  | obj fs => haveWritable fs
  | _ => true

def areWritable : List Json → Bool
  | [] => true
  | x :: rest => isWritable x && areWritable rest

def haveWritable : List (String × Json) → Bool
  | [] => true
  | (_, v) :: rest => isWritable v && haveWritable rest

end

@[simp] theorem isWritable_null : isWritable null = true := rfl

@[simp] theorem isWritable_bool (b : Bool) : isWritable (bool b) = true := rfl

@[simp] theorem isWritable_float (x : Binary64) : isWritable (float x) = true := rfl

@[simp] theorem isWritable_str (s : String) : isWritable (str s) = true := rfl

@[simp] theorem isWritable_int (n : Int) : isWritable (int n) = hasText n := rfl

/-- An array can be written if its items can. -/
@[simp] theorem isWritable_arr {xs : List Json} :
    isWritable (arr xs) = true ↔ ∀ x ∈ xs, x.isWritable = true := by
  rw [isWritable]
  induction xs with
  | nil => simp [areWritable]
  | cons x rest ih => simp [areWritable, ih]

/-- An object can be written if the values of its fields can. -/
@[simp] theorem isWritable_obj {fs : Fields} :
    isWritable (obj fs) = true ↔ ∀ f ∈ fs, f.2.isWritable = true := by
  rw [isWritable]
  induction fs with
  | nil => simp [haveWritable]
  | cons f rest ih => simp [haveWritable, ih]

end MovePlan.Json
