import MovePlan.Json.Basic
import MovePlan.Move.FunctionId
import MovePlan.Numeric.Written

/-!
# Steps

A step calls one function. Each of its arguments is the transaction's signer, a literal, or a
reference to an output of an earlier step. A reference either takes the output away or leaves it for
later steps; only `move` takes it away.

A step may also carry an argument of no such form, or a reference whose target is no text; both
belong to no step and are refused where their meaning is asked for.
-/

namespace MovePlan.Graph

open Move

/-- How a step uses an output of an earlier one. -/
inductive Mode where
  | move
  | copy
  | borrow
  | borrowMut
  deriving DecidableEq, Repr, Inhabited

namespace Mode

/-- The word for a mode. -/
def word : Mode → String
  | move => "move"
  | copy => "copy"
  | borrow => "borrow"
  | borrowMut => "borrow_mut"

def all : List Mode := [move, copy, borrow, borrowMut]

/-- The mode of a word. -/
def ofWord? (s : String) : Option Mode := all.find? fun m => m.word == s

/-- Whether the output is gone after the use. -/
def consumes (m : Mode) : Bool := m == move

/-- A mode is known by its word. -/
theorem ofWord?_word (m : Mode) : ofWord? m.word = some m := by
  cases m <;> decide

/-- No other word stands for a mode. -/
theorem eq_word_of_ofWord? {s : String} {m : Mode} (h : ofWord? s = some m) : s = m.word := by
  have := List.find?_some h
  exact (beq_iff_eq.mp this).symm

end Mode

/-- A reference to the output `index` of the step named `step`. -/
structure Ref where
  step : String
  index : Nat
  mode : Mode := .move
  deriving DecidableEq, Repr

/-- The output that a reference asks for. -/
def Ref.target (r : Ref) : String × Nat := (r.step, r.index)

/-- An argument of a step. -/
inductive Arg where
  | signer
  | literal (value : Json)
  | ref (r : Ref)
  /-- A reference whose target is no text. -/
  | strayRef (step : Json) (index : Nat) (mode : Mode)
  /-- A value that is no argument. -/
  | foreign (value : Json)
  deriving Inhabited

namespace Arg

def isSigner : Arg → Bool
  | signer => true
  | _ => false

/-- Whether the argument is a signer, a literal or a reference to a named step. -/
def isProper : Arg → Bool
  | signer | literal _ | ref _ => true
  | _ => false

/-- Whether messages can tell of the argument: it is proper, and the index of a reference has a text.
Every index that is read has one. -/
def isTellable : Arg → Bool
  | signer | literal _ => true
  | ref r => Numeric.hasText r.index
  | _ => false

/-- An argument that can be told of is proper. -/
theorem isProper_of_isTellable {a : Arg} (h : a.isTellable = true) : a.isProper = true := by
  cases a with
  | signer | literal | ref => rfl
  | strayRef | foreign => cases h

def isRef : Arg → Bool
  | ref _ | strayRef .. => true
  | _ => false

/-- The reference that an argument is. -/
def ref? : Arg → Option Ref
  | ref r => some r
  | _ => none

/-- The word for the kind of an argument; a value that is no argument has none. -/
def kind? : Arg → Option String
  | signer => some "signer"
  | literal _ => some "literal"
  | ref _ | strayRef .. => some "ref"
  | foreign _ => none

end Arg

/-- One call. -/
structure Step where
  label : String
  function : FunctionId
  typeArguments : List Json := []
  args : List Arg := []
  deriving Inhabited

namespace Step

def signerArgs (s : Step) : List Arg := s.args.filter Arg.isSigner

def otherArgs (s : Step) : List Arg := s.args.filter fun a => !a.isSigner

/-- The references among the arguments, in their order. -/
def refs (s : Step) : List Ref := s.args.filterMap Arg.ref?

end Step

end MovePlan.Graph
