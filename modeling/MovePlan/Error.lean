import MovePlan.Validation.Finding
import MovePlan.Notice

/-!
# Errors

Everything that can go wrong, by cause, and the wording of each cause in one place. The structural
errors of plans, graphs and node requests have a code and data for programs to look at; the others
have a message only, or none.

An integer with too many digits has no text, so that reading and writing one can fail.
-/

namespace MovePlan

open Validation

/-- A cause of failure. -/
inductive Error where
  | malformedFunctionId (text reason : String)
  | duplicateLabel (label : String)
  | emptyGraph
  /-- A reference to a step without outputs yet. -/
  | unknownStep (step : Json) (user : String) (available : List String)
  | returnIndexOutOfBounds (step : String) (index arity : Nat) (user : String)
  | alreadyMoved (step : String) (index : Nat) (mover user : String)
  | validationFailed (findings : List Finding)
  | planDecode (path reason : String)
  | planBuild (reason : String)
  | nodeRequest (url reason : String) (status : Option Int)
  /-- A lookup of a module failed for another reason than that it is not there. -/
  | abiFetch (url reason : String) (status : Option Int)
  | executionUnavailable
  /-- A step label that is no text, or empty. -/
  | invalidLabel (label : Json)
  | invalidReturnIndex (index : Json)
  | invalidMode (mode : Json)
  | invalidAddress (text : String)
  /-- A field that should be an integer. -/
  | notInteger (name : String) (value : Json)
  /-- A field that should be an integer and is true or false. -/
  | booleanInteger (name : String)
  | invalidInteger (text : String)
  /-- A numeral with more digits than are read. -/
  | numeralTooLong (digits : Nat)
  /-- An integer that is to be written and has more digits than a text may have. -/
  | tooManyDigits
  | invalidDecimal (text : String)
  | integerOfNaN
  | emptyResponse
  | responseNotObject (kind : String)
  /-- A text that is not JSON; what it is, what is wrong, where, and the text around it. -/
  | invalidJson (context what : String) (position : Nat) (snippet : String)
  | fileNotFound (path context : String)
  /-- Bytes that are no text in the expected encoding. -/
  | undecodable (what : String)
  /-- A text with a character that the expected encoding has no bytes for. -/
  | unencodable (what : String)
  /-- A value of the wrong type. -/
  | wrongType
  /-- A value without the asked-for attribute. -/
  | missingAttribute
  | overflow
  | divisionByZero
  /-- A file is asked for by a name that is none of a file. -/
  | noSuchFile (path : String)
  | isDirectory (path : String)
  | notDirectory (path : String)
  | alreadyExists (path : String)
  | nameTooLong (path : String)
  /-- A directory that is in use. -/
  | busy (path : String)
  /-- What else the system refuses, in its words, such as to write to a full disk. -/
  | refused (what : String)
  /-- A path without a name of its own. -/
  | emptyFileName (path : String)
  /-- A path with the character that ends a text in memory. -/
  | zeroInPath
  /-- What those raise that send requests or show displays: their name for it, whether it tells of a
  wrong value, and its message. -/
  | foreign (name : String) (ofValue : Bool) (message : String)

namespace Error

/-- What a structural error tells a program; the other errors have a message only, or none. -/
def notice? : Error → Option Notice
  | malformedFunctionId text reason => some (.malformedFunctionId (.str text) (.str reason))
  | duplicateLabel label => some (.duplicateLabel (.str label))
  | emptyGraph => some .emptyGraph
  | unknownStep step user available =>
    some (.unknownStep step (.str user) (.texts available) available)
  | returnIndexOutOfBounds step index arity user =>
    some (.returnIndexOutOfBounds (.str step) (.nat index) (.nat arity) (.str user))
  | alreadyMoved step index mover user =>
    some (.alreadyMoved (.str step) (.nat index) (.str mover) (.str user))
  | validationFailed findings =>
    some (.validationFailed (findings.map Finding.toJson) (findings.map Finding.message))
  | planDecode path reason => some (.planDecode (.str path) (.str reason))
  | planBuild reason => some (.planBuild (.str reason))
  | nodeRequest url reason status | abiFetch url reason status =>
    some (.nodeRequest (.str url) (.str reason) (.ofOption .int status))
  | executionUnavailable => some .executionUnavailable
  | _ => none

/-- A text of a message between single quotes, or double ones, as messages show it. -/
def shown (s : String) : String := (Json.str s).quotedText

/-- The message of an error that is no structural one. -/
def plainMessage : Error → String
  | invalidLabel label => s!"step label must be a non-empty string, got {label.quotedText}"
  | invalidReturnIndex index =>
    s!"return_index must be a non-negative integer, got {index.quotedText}"
  | invalidMode mode => s!"{mode.quotedText} is not a valid RefMode"
  | invalidAddress text => s!"Invalid account address: {shown text}"
  | notInteger name value => s!"Invalid {name}: expected an integer, got {value.quotedText}"
  | booleanInteger name => s!"Invalid {name}: expected an integer, got bool"
  | invalidInteger text => s!"invalid literal for int() with base 10: {(shown text).take 200}"
  | numeralTooLong digits => Numeric.overLimit s!": value has {digits} digits"
  | tooManyDigits => Numeric.overLimit ""
  | invalidDecimal text => s!"could not convert string to float: {shown text}"
  | integerOfNaN => "cannot convert float NaN to integer"
  | emptyResponse => "Empty simulate response"
  | responseNotObject kind => s!"Simulate response must be an object, got {kind}"
  | invalidJson context what position snippet =>
    let place := if context = "" then "" else s!" in {context}"
    s!"JSON parse error{place}: {what}\nPosition {position}, snippet: {shown snippet}"
  | fileNotFound path context => s!"File not found: {path} ({context})"
  | undecodable what | unencodable what | refused what => what
  | noSuchFile path => s!"[Errno 2] No such file or directory: {shown path}"
  | isDirectory path => s!"[Errno 21] Is a directory: {shown path}"
  | notDirectory path => s!"[Errno 20] Not a directory: {shown path}"
  | alreadyExists path => s!"[Errno 17] File exists: {shown path}"
  | nameTooLong path => s!"[Errno 36] File name too long: {shown path}"
  | busy path => s!"[Errno 16] Device or resource busy: {shown path}"
  | emptyFileName path => s!"PosixPath({shown path}) has an empty name"
  | zeroInPath => "embedded null byte"
  | foreign _ _ message => message
  | _ => ""

/-- The message of an error. -/
def message (e : Error) : String := (e.notice?.map Notice.text).getD e.plainMessage

/-- One computation after another gives a result when both do. -/
theorem bind_eq_ok_iff {α β : Type} {x : Except Error α} {f : α → Except Error β} {b : β} :
    x >>= f = .ok b ↔ ∃ a, x = .ok a ∧ f a = .ok b := by
  cases x with
  | error e => simp [bind, Except.bind]
  | ok a => simp [bind, Except.bind]

/-- One computation after another fails when the first does, or else the second. -/
theorem bind_eq_error_iff {α β : Type} {x : Except Error α} {f : α → Except Error β} {e : Error} :
    x >>= f = .error e ↔ x = .error e ∨ ∃ a, x = .ok a ∧ f a = .error e := by
  cases x with
  | error e' => simp [bind, Except.bind]
  | ok a => simp [bind, Except.bind]

end Error

/-! ## Integers as texts -/

/-- The text of an integer; one with too many digits has none. -/
def Numeric.writeInt (n : Int) : Except Error String :=
  if hasText n then .ok (String.ofList (intText n)) else .error .tooManyDigits

/-- A text that nothing is done with has to be there nevertheless. -/
theorem Numeric.discard_writeInt_eq_ok_iff {n : Int} {u : Unit} :
    discard (writeInt n) = .ok u ↔ hasText n = true := by
  unfold writeInt
  split
  next h => exact iff_of_true rfl h
  next h => exact iff_of_false nofun h

end MovePlan
