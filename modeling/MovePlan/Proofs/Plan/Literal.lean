import MovePlan.Proofs.Graph.Literal
import MovePlan.Proofs.Plan.Refused

/-!
# Literals that fail

A literal of digits and `n` with a line feed after it has no value, nor has one of too many digits. No other
literal makes a step or a plan fail (`literals_fail_only_before_lineFeed`): a step ends as it does without its
literals, and a plan is refused for an integer only where a literal has such a form.
-/

namespace MovePlan

open Graph Json Error

/-- The errors of integers that are not read. -/
inductive Error.IsOfInteger : Error → Prop where
  | invalidInteger (text : String) : IsOfInteger (.invalidInteger text)
  | numeralTooLong (digits : Nat) : IsOfInteger (.numeralTooLong digits)

/-! ## Steps -/

/-- Whether an argument is a literal. -/
def Graph.Arg.isLiteral : Arg → Bool
  | literal _ => true
  | _ => false

/-- A step without its literals. -/
def Graph.Step.withoutLiterals (s : Step) : Step :=
  { s with args := s.args.filter fun a => !a.isLiteral }

namespace Resolver

/-- How a resolution ends: with an error or without one, and what is gone then. -/
def ending {α : Type} (out : Except Error α × Resolver) : Except Error Unit × Resolver :=
  (out.1.map fun _ => (), out.2)

variable {user : String}

theorem ending_resolveArgs_cons (r : Resolver) (a : Arg) (rest : List Arg) :
    ending (r.resolveArgs user (a :: rest)) =
      match r.resolveArg a user with
      | (.error e, r) => (.error e, r)
      | (.ok _, r) => ending (r.resolveArgs user rest) := by
  rw [resolveArgs]
  generalize r.resolveArg a user = out
  obtain ⟨result, r₁⟩ := out
  cases result with
  | error e => rfl
  | ok x =>
    dsimp only
    generalize r₁.resolveArgs user rest = out
    obtain ⟨results, r₂⟩ := out
    cases results <;> rfl

/-- Literals that are not broken make no difference to how the resolution of arguments ends. -/
theorem ending_resolveArgs {args : List Arg} (h : ∀ v, .literal v ∈ args → ¬ Literal.IsBroken v)
    (r : Resolver) : ending (r.resolveArgs user args) =
      ending (r.resolveArgs user (args.filter fun a => !a.isLiteral)) := by
  induction args generalizing r with
  | nil => rfl
  | cons a rest ih =>
    have hrest := ih fun v hv => h v (List.mem_cons_of_mem a hv)
    rw [ending_resolveArgs_cons]
    cases a with
    | literal v =>
      obtain ⟨w, hw⟩ := Literal.exists_value (h v List.mem_cons_self)
      rw [resolveArg, hw]
      exact hrest r
    | _ =>
      rw [List.filter_cons_of_pos rfl, ending_resolveArgs_cons]
      simp only [hrest]

theorem ending_resolveStep (r : Resolver) (s : Step) :
    ending (r.resolveStep s) = ending (r.resolveArgs s.label s.args) := by
  rw [resolveStep]
  generalize r.resolveArgs s.label s.args = out
  obtain ⟨results, r'⟩ := out
  cases results <;> rfl

end Resolver

/-! ## Plans -/

namespace Plan

/-- Whether an argument of a plan is a literal with a value. -/
structure IsLiteralOf (a v : Json) : Prop where
  kind : a.get? "kind" = some (.str "literal")
  value : a.get? "value" = some v

theorem literalAt_cases (path : String) (v : Json) : (∃ w, literalAt path v = .ok w) ∨
    ∃ reason, literalAt path v = .error (.planDecode path reason) := by
  unfold literalAt
  split
  · split
    · split
      · exact Or.inl ⟨_, rfl⟩
      · exact Or.inr ⟨_, rfl⟩
    · exact Or.inr ⟨_, rfl⟩
  · exact Or.inl ⟨_, rfl⟩
  · exact Or.inl ⟨_, rfl⟩
  · exact Or.inl ⟨_, rfl⟩
  · exact Or.inr ⟨_, rfl⟩

/-- A literal that is not broken is decoded, or its value is named as one that no literal may have. -/
theorem decodeArg_of_isLiteralOf {a v : Json} (ha : IsLiteralOf a v) (hv : ¬ Literal.IsBroken v)
    (path : String) : (∃ w, decodeArg path a = .ok (.literal w)) ∨
      ∃ reason, decodeArg path a = .error (.planDecode s!"{path}.value" reason) := by
  obtain ⟨hkind, hvalue⟩ := ha
  cases a with
  | obj fields =>
    have harg : decodeArg path (.obj fields) = do
        let w ← literalAt s!"{path}.value" v
        return .literal (← decodeLiteral w) := by
      simp only [decodeArg, isObject, get_of_field? hkind, Json.text?, hvalue]
      rfl
    rw [harg]
    rcases literalAt_cases s!"{path}.value" v with ⟨w, hw⟩ | ⟨reason, hreason⟩
    · have hbroken : ¬ Literal.IsBroken w := by
        rintro ⟨digits, n, hnumeral, rfl | ⟨hlimit, rfl⟩⟩
        · exact hv ⟨digits, n, hnumeral, Or.inl (eq_str_of_literalAt hw)⟩
        · exact hv ⟨digits, n, hnumeral, Or.inr ⟨hlimit, eq_str_of_literalAt hw⟩⟩
      obtain ⟨value, hvalue⟩ := Literal.exists_value hbroken
      exact Or.inl ⟨value, bind_eq_ok_iff.mpr ⟨w, hw, bind_eq_ok_iff.mpr ⟨value, hvalue, rfl⟩⟩⟩
    · exact Or.inr ⟨reason, by rw [hreason]; rfl⟩
  | _ => cases hkind

/-- A plan is refused for an integer only where a literal is broken. -/
theorem exists_broken_of_decode {p : Json} {e : Error} (h : decode p = .error e)
    (he : e.IsOfInteger) :
    ∃ (i j : Nat) (s a v : Json), (p.get? "steps").bind (item? i) = some s ∧
      (s.get? "args").bind (item? j) = some a ∧ IsLiteralOf a v ∧ Literal.IsBroken v := by
  rcases decode_fails p _ h with hof | ⟨i, s, hs, j, a, ha, hescapes⟩
  · cases he <;> cases hof
  · cases hescapes with
    | mode => cases he
    | literal kind hvalue hdigits =>
      obtain ⟨hnumeral, rfl⟩ := Literal.isNumeral_of_bigIntegerDigits? hdigits
      exact ⟨i, j, s, a, _, hs, ha, ⟨kind, hvalue⟩, _, _, hnumeral, Or.inl rfl⟩
    | @tooLong s' digits last kind hvalue hdigits hlimit =>
      obtain ⟨hnumeral, rfl⟩ := Literal.isNumeral_of_bigIntegerDigits? hdigits
      cases last with
      | true => exact ⟨i, j, s, a, _, hs, ha, ⟨kind, hvalue⟩, _, _, hnumeral, Or.inr ⟨hlimit, rfl⟩⟩
      | false => exact ⟨i, j, s, a, _, hs, ha, ⟨kind, hvalue⟩, _, _, hnumeral, Or.inl rfl⟩

/-- **No literal fails but digits and `n` before a line feed, or too many**: every other one gives its value,
and makes no difference to how the step that it is in is resolved; in a plan it is decoded, or its value is named as one
that no literal may have, and a plan is refused for an integer only where there is such a literal. -/
theorem literals_fail_only_before_lineFeed (v : Json) (r : Resolver) (s : Step) (p : Json) :
    (∀ out, decodeLiteral v = out ↔ Literal.Gives v out) ∧
    ((∃ v, .literal v ∈ s.args ∧ Literal.IsBroken v) ∨
      Resolver.ending (r.resolveStep s) = Resolver.ending (r.resolveStep s.withoutLiterals)) ∧
    (∀ a path, IsLiteralOf a v → Literal.IsBroken v ∨ (∃ w, decodeArg path a = .ok (.literal w)) ∨
      ∃ reason, decodeArg path a = .error (.planDecode s!"{path}.value" reason)) ∧
    ((∃ (i j : Nat) (s a v : Json), (p.get? "steps").bind (item? i) = some s ∧
        (s.get? "args").bind (item? j) = some a ∧ IsLiteralOf a v ∧ Literal.IsBroken v) ∨
      ∀ e : Error, e.IsOfInteger → decode p ≠ .error e) := by
  refine ⟨fun _ => Literal.decodeLiteral_eq_iff, ?_, fun a path ha => ?_, ?_⟩
  · rw [or_iff_not_imp_left]
    intro h
    rw [Resolver.ending_resolveStep, Resolver.ending_resolveStep]
    exact Resolver.ending_resolveArgs (fun v hv hbroken => h ⟨v, hv, hbroken⟩) r
  · exact or_iff_not_imp_left.mpr fun hv => decodeArg_of_isLiteralOf ha hv path
  · rw [or_iff_not_imp_left]
    exact fun h e he hp => h (exists_broken_of_decode hp he)

/-- Such a literal does fail. -/
theorem decodeLiteral_fails_before_lineFeed : ¬ ∀ v, ∃ w, decodeLiteral v = .ok w := by
  intro h
  obtain ⟨w, hw⟩ := h (.str "5n\n")
  have hfails : decodeLiteral (.str "5n\n") = .error (.invalidInteger "5n") := rfl
  exact nomatch hfails.symm.trans hw

end Plan

end MovePlan
