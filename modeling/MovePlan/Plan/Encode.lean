import MovePlan.Plan.Decode

/-!
# Plans as JSON

The written form of a graph and its tokens. Integers that are not negative are written as digits
followed by `n`, so that no reader rounds them. Every step has all its fields, and the tokens are
left out if there are none.
-/

namespace MovePlan.Plan

open Graph Numeric

/-- The value of a literal as it is written. -/
def encodeLiteral : Json → Json
  | .int n => if 0 ≤ n then .str (String.ofList (intText n ++ ['n'])) else .int n
  | v => v

def encodeRef (step : Json) (index : Nat) (mode : Mode) : Json :=
  .obj [("kind", .str "ref"), ("step", step), ("returnIndex", .nat index), ("mode", .str mode.word)]

/-- An argument as it is written; a value that is no argument stays what it is. -/
def encodeArg : Arg → Json
  | .signer => .obj [("kind", .str "signer")]
  | .literal v => .obj [("kind", .str "literal"), ("value", encodeLiteral v)]
  | .ref r => encodeRef (.str r.step) r.index r.mode
  | .strayRef step index mode => encodeRef step index mode
  | .foreign v => v

def encodeStep (s : Step) : Json :=
  .obj [("label", .str s.label), ("function", .str s.function.text),
    ("typeArguments", .arr s.typeArguments), ("args", .arr (s.args.map encodeArg))]

/-- The written form of a plan. -/
def encode (g : StepGraph) (tokens : List Token) : Json :=
  let steps := ("steps", Json.arr (g.steps.map encodeStep))
  if tokens.isEmpty then .obj [steps]
  else .obj [("tokens", .arr (tokens.map Token.toJson)), steps]

/-- Why an argument has no written form: it is no argument, or a literal that is written as a text is an
integer that has none. -/
def argFault? : Arg → Option Error
  | .literal (.int n) => if 0 ≤ n ∧ !hasText n then some .tooManyDigits else none
  | .foreign _ => some .missingAttribute
  | _ => none

/-- The written form of a plan all of whose arguments have one. -/
def encode? (g : StepGraph) (tokens : List Token) : Except Error Json :=
  match (g.steps.flatMap Step.args).findSome? argFault? with
  | none => .ok (encode g tokens)
  | some e => .error e

/-- A plan has a written form if no argument of its steps is without one. -/
theorem encode?_eq_ok_iff {g : StepGraph} {tokens : List Token} {q : Json} : encode? g tokens = .ok q ↔
    q = encode g tokens ∧ ∀ s ∈ g.steps, ∀ a ∈ s.args, argFault? a = none := by
  have hnone : (g.steps.flatMap Step.args).findSome? argFault? = none ↔
      ∀ s ∈ g.steps, ∀ a ∈ s.args, argFault? a = none := by
    simp only [List.findSome?_eq_none_iff, List.mem_flatMap, forall_exists_index, and_imp]
    exact ⟨fun h s hs a ha => h a s hs ha, fun h a s hs ha => h s hs a ha⟩
  rw [← hnone, encode?]
  split
  · next h => simp [h, eq_comm]
  · next h => simp [h]

theorem kind?_isSome_of_argFault? {a : Arg} (h : argFault? a = none) : a.kind?.isSome = true := by
  cases a with
  | signer | literal | ref | strayRef => rfl
  | foreign => cases h

end MovePlan.Plan
