import MovePlan.Json.Basic
import MovePlan.Text.Quoted

/-!
# Values in messages

How messages show a value: texts between quotes, arrays and objects with their contents, and words
for null, true and false. On its own a text is shown as it is.
-/

namespace MovePlan.Json

open Numeric Text

mutual

/-- A value as messages show it. -/
def quotedChars : Json → List Char
  | null => "None".toList
  | bool true => "True".toList
  | bool false => "False".toList
  | int n => intText n
  | float x => x.text
  | str s => quoted s.toList
  | arr xs => '[' :: quotedItems xs ++ [']']
  | obj fs => '\x7b' :: quotedFields fs ++ ['\x7d']

/-- Items, with commas between them. -/
def quotedItems : List Json → List Char
  | [] => []
  | [x] => quotedChars x
  | x :: rest => quotedChars x ++ ',' :: ' ' :: quotedItems rest

/-- Fields, with commas between them. -/
def quotedFields : List (String × Json) → List Char
  | [] => []
  | [(k, v)] => quoted k.toList ++ ':' :: ' ' :: quotedChars v
  | (k, v) :: rest => quoted k.toList ++ ':' :: ' ' :: quotedChars v ++ ',' :: ' ' :: quotedFields rest

end

/-- A value as messages show it, a text between quotes. -/
def quotedText (j : Json) : String := String.ofList j.quotedChars

/-- A value as messages show it, a text without quotes. -/
def display : Json → String
  | str s => s
  | j => j.quotedText

end MovePlan.Json
