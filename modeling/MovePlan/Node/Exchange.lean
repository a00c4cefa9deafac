import MovePlan.Error
import MovePlan.Json.Reader
import MovePlan.Text.Encoding

/-!
# Requests and replies

What is asked of a node and what comes back. A request that is not answered either took too long or
did not get there; both come with a text. How requests get to a node is left open: a transport is
whatever takes them, and it may also refuse one with an error of its own, be it because the address
makes no sense to it.
-/

namespace MovePlan.Node

open Text

/-- What a request does. -/
inductive Method where
  | get
  | post
  deriving DecidableEq, Repr

/-- The word for a method. -/
def Method.word : Method → String
  | get => "GET"
  | post => "POST"

/-- A request to a node: what it does, where it goes, the fields in front of its body, and the body. -/
structure Request where
  method : Method
  url : String
  headers : List (String × String)
  body : Option Json

/-- What comes back. -/
inductive Reply where
  | answer (status : Int) (body : String)
  | timedOut (message : String)
  | failed (message : String)
  deriving DecidableEq, Repr

/-- A way to a node, which may keep a state of its own from one request to the next. It brings a reply or
refuses the request. -/
abbrev Transport (σ : Type) := Request → σ → Except Error Reply × σ

/-- Whether no request is refused, so that all that goes wrong on the way is told in a reply. -/
def Transport.Replies {σ : Type} (t : Transport σ) : Prop :=
  ∀ request s, ∃ reply, (t request s).1 = .ok reply

/-! ## Bodies -/

/-- How much of a body is shown in messages. -/
def shownBodyLength : Nat := 400

/-- The beginning of a body on one line. -/
def bodyStart (body : String) : String :=
  let line := body.toList.map fun c => if c = '\n' ∨ c = '\r' then ' ' else c
  String.ofList (line.take shownBodyLength)

/-- The line and the column of a position in a text, both from one. -/
def lineAndColumn (s : List Char) (position : Nat) : Nat × Nat :=
  let before := s.take position
  ((before.filter (· == '\n')).length + 1, (before.reverse.takeWhile (· != '\n')).length + 1)

/-- What is wrong with a body, and where; of an integer with too many digits the place is not told. -/
def describeFault (s : List Char) (f : Json.Fault) : String :=
  match f.kind with
  | .longInteger _ => f.kind.message
  | kind =>
    let position := f.position s
    let (line, column) := lineAndColumn s position
    s!"{kind.message}: line {line} column {column} (char {position})"

/-- The text that the bytes of a body spell, or what is wrong with them. Zero bytes at the beginning
tell the encoding, and one byte-order mark in front is left out. -/
def bodyText (body : String) : Except String (List Char) :=
  let bytes := body.toUTF8.data.toList
  match Encoding.ofStart bytes, body.toList with
  | .utf8, '\uFEFF' :: rest => .ok rest
  | .utf8, s => .ok s
  | e, _ => (e.decode bytes).mapError e.describe

/-- The document that a body holds, or what is wrong with it. -/
def readBody (body : String) : Except String Json := do
  let s ← bodyText body
  (Json.readFrom [] .value s).mapError (describeFault s)

end MovePlan.Node
