import MovePlan.Proofs.Graph.Place
import MovePlan.Proofs.Plan.Accepted

/-!
# Plans that are refused

A plan that is not decoded has a fault of form, which is named with its place, or makes no graph, because
a function id is malformed or a label comes twice (`Error.IsOfPlan`). Two arguments end the decoding in
other ways (`ArgEscapes`): a reference whose mode is a list or an object, which cannot be looked up among
the modes, and a literal of digits and `n` with a line feed after it, which is taken for an integer and
then not read as one; too many digits are not read either. There are no more (`decode_fails_as_declared`),
and these are there (`decode_fails_otherwise`).
-/

namespace MovePlan

open Graph Json

/-- The errors that the decoder of plans tells of: faults of form, and what makes no graph. -/
inductive Error.IsOfPlan : Error → Prop where
  | planDecode (path reason : String) : IsOfPlan (.planDecode path reason)
  | malformedFunctionId (text reason : String) : IsOfPlan (.malformedFunctionId text reason)
  | duplicateLabel (label : String) : IsOfPlan (.duplicateLabel label)

namespace Plan

/-! ## Failing in given ways -/

/-- Whether a computation can fail in the given ways only. -/
def FailsBy {α : Type} (P : Error → Prop) (x : Except Error α) : Prop := ∀ e, x = .error e → P e

section FailsBy

variable {α β : Type} {P Q : Error → Prop} {x : Except Error α}

/-- A result is no failure. -/
theorem FailsBy.ok (a : α) : FailsBy P (.ok a : Except Error α) := fun _ h => nomatch h

/-- An error is the one failure that it is. -/
theorem FailsBy.error {e : Error} (h : P e) : FailsBy P (.error e : Except Error α) := by
  rintro _ ⟨⟩
  exact h

/-- Failures of a kind are failures of every wider kind. -/
theorem FailsBy.imp (h : FailsBy P x) (hPQ : ∀ e, P e → Q e) : FailsBy Q x :=
  fun e he => hPQ e (h e he)

/-- One computation after another fails as one of the two does. -/
theorem FailsBy.bind {f : α → Except Error β} (hx : FailsBy P x)
    (hf : ∀ a, x = .ok a → FailsBy P (f a)) : FailsBy P (x >>= f) := by
  cases x with
  | error e => exact FailsBy.error (hx e rfl)
  | ok a => exact hf a rfl

/-- A fault of the decoder names its place. -/
theorem FailsBy.fault (path reason : String) :
    FailsBy Error.IsOfPlan (fault path reason : Except Error α) :=
  .error (.planDecode path reason)

end FailsBy

/-! ## Fields -/

variable {path : String} {j : Json}

/-- A text is refused with a fault of the decoder. -/
theorem textAt_fails (path : String) (j : Json) : FailsBy Error.IsOfPlan (textAt path j) := by
  unfold textAt
  split
  · split
    · exact .fault _ _
    · exact .ok _
  · exact .fault _ _

/-- A number is refused with a fault of the decoder. -/
theorem naturalAt_fails (path : String) (j : Json) : FailsBy Error.IsOfPlan (naturalAt path j) := by
  unfold naturalAt
  split
  · split
    · exact .ok _
    · exact .fault _ _
  · exact .fault _ _

/-- A literal is refused with a fault of the decoder. -/
theorem literalAt_fails (path : String) (j : Json) : FailsBy Error.IsOfPlan (literalAt path j) := by
  unfold literalAt
  split
  · split
    · split
      · exact .ok _
      · exact .fault _ _
    · exact .fault _ _
  · exact .ok _
  · exact .ok _
  · exact .ok _
  · exact .fault _ _

/-- What should be a list of types is refused with a fault of the decoder. -/
theorem typeArgumentsAt_fails (path : String) (j : Json) :
    FailsBy Error.IsOfPlan (typeArgumentsAt path j) := by
  unfold typeArgumentsAt
  split
  · exact .ok _
  · split
    · split
      · exact .ok _
      · exact .fault _ _
    · exact .fault _ _

/-- Whether a value is a list or an object, which is no key of anything. -/
def IsKeyless : Json → Prop
  | .arr _ | .obj _ => True
  | _ => False

/-- A mode is refused with a fault unless it is a list or an object. -/
theorem modeAt_fails (path : String) (mode : Option Json) : FailsBy
    (fun e => e.IsOfPlan ∨ (e = .wrongType ∧ ∃ v, mode = some v ∧ IsKeyless v)) (modeAt path mode) := by
  unfold modeAt
  split
  · exact .ok _
  · exact .error (Or.inr ⟨rfl, _, rfl, trivial⟩)
  · exact .error (Or.inr ⟨rfl, _, rfl, trivial⟩)
  · split
    · exact .ok _
    · exact (FailsBy.fault _ _).imp fun _ => Or.inl

/-! ## Arguments -/

/-- The ways in which the decoding of an argument ends that no error of the decoder tells of. -/
inductive ArgEscapes (j : Json) : Error → Prop where
  /-- A reference that is in order but for its mode, which is a list or an object. -/
  | mode {step : String} {index : Nat} {mode : Json} (kind : j.get? "kind" = some (.str "ref"))
    (hstep : j.get? "step" = some (.str step)) (hne : step ≠ "")
    (hindex : j.get? "returnIndex" = some (.nat index))
    (hmode : j.get? "mode" = some mode) (hkeyless : IsKeyless mode) : ArgEscapes j .wrongType
  /-- A literal of digits and `n`, and a line feed after it. -/
  | literal {s : String} {digits : List Char} (kind : j.get? "kind" = some (.str "literal"))
    (hvalue : j.get? "value" = some (.str s))
    (hdigits : bigIntegerDigits? s.toList = some (digits, false))
    (hlimit : digits.length ≤ Numeric.digitLimit) :
    ArgEscapes j (.invalidInteger (String.ofList (digits ++ ['n'])))
  /-- A literal of too many digits and `n`. -/
  | tooLong {s : String} {digits : List Char} {last : Bool}
    (kind : j.get? "kind" = some (.str "literal")) (hvalue : j.get? "value" = some (.str s))
    (hdigits : bigIntegerDigits? s.toList = some (digits, last))
    (hlimit : Numeric.digitLimit < digits.length) :
    ArgEscapes j (.numeralTooLong digits.length)

/-- A literal fails only as digits and `n`, before a line feed or too many. -/
theorem decodeLiteral_fails (v : Json) : FailsBy (fun e => ∃ s digits last, v = .str s ∧
    bigIntegerDigits? s.toList = some (digits, last) ∧
    ((digits.length ≤ Numeric.digitLimit ∧ last = false ∧
        e = .invalidInteger (String.ofList (digits ++ ['n']))) ∨
      (Numeric.digitLimit < digits.length ∧ e = .numeralTooLong digits.length)))
    (decodeLiteral v) := by
  unfold decodeLiteral
  split
  · next s =>
    split
    · exact .ok _
    · next digits last hdigits =>
      split
      · next hlimit => exact .error ⟨s, digits, last, rfl, hdigits, Or.inr ⟨hlimit, rfl⟩⟩
      · next hlimit =>
        cases last with
        | true => exact .ok _
        | false =>
          exact .error ⟨s, digits, false, rfl, hdigits, Or.inl ⟨Nat.le_of_not_lt hlimit, rfl, rfl⟩⟩
  · exact .ok _

/-- A text that is taken for a literal's value is the value itself. -/
theorem eq_str_of_literalAt {s : String} (h : literalAt path j = .ok (.str s)) : j = .str s := by
  unfold literalAt at h
  split at h
  · split at h
    · split at h <;> cases h
    · cases h
  · cases h; rfl
  · cases h
  · cases h
  · cases h

/-- An argument is refused with a fault, or escapes. -/
theorem decodeArg_fails (path : String) (j : Json) :
    FailsBy (fun e => e.IsOfPlan ∨ ArgEscapes j e) (decodeArg path j) := by
  cases j with
  | obj fields =>
    have hkind : ∀ {kind}, (Json.get "kind" (.obj fields)).text? = some kind →
        field? "kind" fields = some (.str kind) := by
      intro kind hk
      exact field?_of_getD (eq_str_of_text? hk) (by simp)
    simp only [decodeArg, isObject, Bool.not_true, Bool.false_eq_true, if_false]
    split
    · exact .ok _
    · next hk =>
      split
      · exact (FailsBy.fault _ _).imp fun _ => Or.inl
      · next v hv =>
        refine ((literalAt_fails _ v).imp fun _ => Or.inl).bind fun w hw => ?_
        refine FailsBy.bind ?_ fun _ _ => .ok _
        refine (decodeLiteral_fails w).imp ?_
        rintro _ ⟨s, digits, last, rfl, hdigits, ⟨hlimit, rfl, rfl⟩ | ⟨hlimit, rfl⟩⟩
        · rw [eq_str_of_literalAt hw] at hv
          exact Or.inr (.literal (hkind hk) hv hdigits hlimit)
        · rw [eq_str_of_literalAt hw] at hv
          exact Or.inr (.tooLong (hkind hk) hv hdigits hlimit)
    · next hk =>
      refine ((textAt_fails _ _).imp fun _ => Or.inl).bind fun step hstep => ?_
      refine ((naturalAt_fails _ _).imp fun _ => Or.inl).bind fun index hindex => ?_
      refine FailsBy.bind ?_ fun _ _ => .ok _
      refine (modeAt_fails _ _).imp ?_
      rintro e (he | ⟨rfl, mode, hmode, hkeyless⟩)
      · exact Or.inl he
      · obtain ⟨hstep, hne⟩ := textAt_eq_ok hstep
        have hstepField := field?_of_getD hstep (by simp)
        have hindexField := field?_of_getD (naturalAt_eq_ok hindex) (by simp)
        exact Or.inr (.mode (hkind hk) hstepField hne hindexField hmode hkeyless)
    · exact (FailsBy.fault _ _).imp fun _ => Or.inl
  | _ => exact (FailsBy.fault _ _).imp fun _ => Or.inl

/-- Such an argument does end the decoding, and in that way. -/
theorem decodeArg_of_escapes {e : Error} (h : ArgEscapes j e) (path : String) :
    decodeArg path j = .error e ∧ ¬ e.IsOfPlan := by
  cases j with
  | obj fields =>
    cases h with
    | @mode step index mode kind hstep hne hindex hmode hkeyless =>
      refine ⟨?_, by rintro ⟨⟩⟩
      have hmodeAt : ∀ path, modeAt path (some mode) = .error .wrongType := by
        intro path
        cases mode with
        | arr | obj => rfl
        | _ => cases hkeyless
      simp only [decodeArg, isObject, get_of_field? kind, Json.text?, get_of_field? hstep,
        get_of_field? hindex, textAt_of_ne hne, Json.nat,
        naturalAt_of_nonneg (Int.natCast_nonneg index)]
      rw [hmode, hmodeAt]
      rfl
    | @literal s digits kind hvalue hdigits hlimit =>
      refine ⟨?_, by rintro ⟨⟩⟩
      simp only [decodeArg, isObject, get_of_field? kind, Json.text?, hvalue, literalAt]
      show (decodeLiteral (.str s) >>= fun v => pure (Arg.literal v)) = _
      simp only [decodeLiteral, hdigits, if_neg (Nat.not_lt.mpr hlimit)]
      rfl
    | @tooLong s digits last kind hvalue hdigits hlimit =>
      refine ⟨?_, by rintro ⟨⟩⟩
      simp only [decodeArg, isObject, get_of_field? kind, Json.text?, hvalue, literalAt]
      show (decodeLiteral (.str s) >>= fun v => pure (Arg.literal v)) = _
      simp only [decodeLiteral, hdigits, if_pos hlimit]
      rfl
  | _ => rcases h with ⟨⟨⟩⟩ | ⟨⟨⟩⟩ | ⟨⟨⟩⟩

/-! ## Lists -/

/-- A list is refused as one of its items is. -/
theorem decodeEach_fails {α : Type} {decode : String → Json → Except Error α}
    {S : Json → Error → Prop}
    (h : ∀ path x, FailsBy (fun e => e.IsOfPlan ∨ S x e) (decode path x)) (path : String) (i : Nat)
    (xs : List Json) : FailsBy (fun e => e.IsOfPlan ∨ ∃ (k : Nat) (x : Json), xs[k]? = some x ∧ S x e)
      (decodeEach decode path i xs) := by
  induction xs generalizing i with
  | nil => exact .ok _
  | cons x rest ih =>
    refine FailsBy.bind ?_ fun _ _ => FailsBy.bind ?_ fun _ _ => .ok _
    · exact (h _ x).imp fun _ => Or.imp_right fun hx => ⟨0, x, rfl, hx⟩
    · exact (ih (i + 1)).imp fun _ => Or.imp_right fun ⟨k, y, hy, hS⟩ => ⟨k + 1, y, hy, hS⟩

/-! ## Tokens -/

theorem decodeToken_fails (path : String) (j : Json) : FailsBy Error.IsOfPlan (decodeToken path j) := by
  cases j with
  | obj fields =>
    simp only [decodeToken, isObject, Bool.not_true, Bool.false_eq_true, if_false]
    exact (textAt_fails _ _).bind fun _ _ => (textAt_fails _ _).bind fun _ _ =>
      (naturalAt_fails _ _).bind fun _ _ => .ok _
  | _ => exact .fault _ _

theorem decodeTokens_fails (j : Json) : FailsBy Error.IsOfPlan (decodeTokens j) := by
  unfold decodeTokens
  split
  · exact .ok _
  · refine (decodeEach_fails (S := fun _ _ => False)
      (fun path x => (decodeToken_fails path x).imp fun _ => Or.inl) _ _ _).imp ?_
    rintro e (he | ⟨_, _, _, ⟨⟩⟩)
    exact he
  · exact .fault _ _

/-! ## Steps -/

/-- What is decoded of a step is refused by a graph only for its label or its function. -/
theorem add_fails (g : StepGraph) {label : String} (hl : label ≠ "") (function : String)
    (types : List Json) (args : List Arg) :
    FailsBy Error.IsOfPlan (g.add ⟨.str label, .field (.str function), .arr types, args⟩) := by
  intro e he
  cases StepGraph.refused_of_add he with
  | label h => exact absurd (h label rfl) hl
  | duplicate h _ => exact .duplicateLabel _
  | function _ _ => exact .malformedFunctionId _ _
  | typeArguments _ _ hlone => cases types <;> cases hlone

/-- A step with an argument that ends the decoding in a way that no error tells of. -/
def StepEscapes (s : Json) (e : Error) : Prop :=
  ∃ k a, (s.get? "args").bind (item? k) = some a ∧ ArgEscapes a e

/-- A step is refused as the decoder tells, unless one of its arguments escapes. -/
theorem decodeStep_fails (path : String) (j : Json) :
    FailsBy (fun e => e.IsOfPlan ∨ StepEscapes j e) (decodeStep path j) := by
  cases j with
  | obj fields =>
    simp only [decodeStep, isObject, Bool.not_true, Bool.false_eq_true, if_false]
    refine ((textAt_fails _ _).imp fun _ => Or.inl).bind fun label _ => ?_
    split
    · refine FailsBy.bind (.ok _) fun function _ => ?_
      refine ((typeArgumentsAt_fails _ _).imp fun _ => Or.inl).bind fun types _ => ?_
      split
      · next xs hxs =>
        refine FailsBy.bind ?_ fun _ _ => .ok _
        refine (decodeEach_fails decodeArg_fails _ 0 xs).imp fun e => Or.imp_right ?_
        rintro ⟨k, a, ha, he⟩
        refine ⟨k, a, ?_, he⟩
        rw [Json.get?, field?_of_getD hxs (by simp)]
        exact ha
      · exact ((FailsBy.fault _ _).imp fun _ => Or.inl).bind fun _ _ => .ok _
    · refine ((FailsBy.fault _ _).imp fun _ => Or.inl).bind fun _ h => ?_
      cases h
  | _ => exact (FailsBy.fault _ _).imp fun _ => Or.inl

/-- Steps are refused as one of them is, or as the graph tells. -/
theorem decodeSteps_fails (i : Nat) (steps : List Json) (g : StepGraph) :
    FailsBy (fun e => e.IsOfPlan ∨ ∃ (k : Nat) (s : Json), steps[k]? = some s ∧ StepEscapes s e)
      (decodeSteps i steps g) := by
  induction steps generalizing i g with
  | nil => exact .ok _
  | cons s rest ih =>
    refine FailsBy.bind ?_ fun draft hdraft => FailsBy.bind ?_ fun g _ => ?_
    · exact (decodeStep_fails _ s).imp fun _ => Or.imp_right fun hs => ⟨0, s, rfl, hs⟩
    · obtain ⟨fields, rfl⟩ := exists_obj_of_decodeStep hdraft
      obtain ⟨label, function, types, _, args, hlabel, -, -, -, -, rfl⟩ :=
        decodeStep_obj_eq_ok_iff.mp hdraft
      exact (add_fails g (textAt_eq_ok hlabel).2 function types args).imp fun _ => Or.inl
    · exact (ih (i + 1) g).imp fun _ => Or.imp_right fun ⟨k, t, ht, he⟩ => ⟨k + 1, t, ht, he⟩

/-! ## Plans -/

/-- A plan is refused as the decoder tells, unless an argument of it escapes. -/
theorem decode_fails (p : Json) : FailsBy (fun e => e.IsOfPlan ∨
    ∃ k s, (p.get? "steps").bind (item? k) = some s ∧ StepEscapes s e) (decode p) := by
  cases p with
  | obj fields =>
    simp only [decode, isObject, Bool.not_true, Bool.false_eq_true, if_false]
    split
    · next steps hsteps =>
      refine ((decodeTokens_fails _).imp fun _ => Or.inl).bind fun _ _ => ?_
      refine FailsBy.bind ?_ fun _ _ => .ok _
      refine (decodeSteps_fails 0 steps .empty).imp fun e => Or.imp_right ?_
      rintro ⟨k, s, hs, he⟩
      refine ⟨k, s, ?_, he⟩
      rw [Json.get?, field?_of_getD hsteps (by simp)]
      exact hs
    · exact (FailsBy.fault _ _).imp fun _ => Or.inl
  | _ => exact (FailsBy.fault _ _).imp fun _ => Or.inl

/-- **A plan is decoded, or refused with an error that the decoder tells of, or has an argument with which
the decoding ends otherwise**: a reference whose mode is a list or an object, or a literal of digits and `n`
that stands before a line feed or has too many digits. -/
theorem decode_fails_as_declared (p : Json) : (∃ doc, decode p = .ok doc) ∨
    ∃ e, decode p = .error e ∧ (e.IsOfPlan ∨ ∃ i j s a, (p.get? "steps").bind (item? i) = some s ∧
      (s.get? "args").bind (item? j) = some a ∧ ArgEscapes a e) := by
  cases hp : decode p with
  | ok doc => exact Or.inl ⟨doc, rfl⟩
  | error e =>
    refine Or.inr ⟨e, rfl, (decode_fails p e hp).imp_right ?_⟩
    rintro ⟨i, s, hs, j, a, ha, he⟩
    exact ⟨i, j, s, a, hs, ha, he⟩

/-- A plan with a single argument. -/
def passing (arg : Json) : Json :=
  .obj [("steps", .arr [.obj [("label", .str "pass"), ("function", .str "0x1::vault::pass"),
    ("args", .arr [arg])]])]

/-- A reference whose mode is a list is refused in another way. -/
theorem decode_fails_otherwise : ¬ ∀ p, (∃ doc, decode p = .ok doc) ∨
    ∃ e, decode p = .error e ∧ e.IsOfPlan := by
  intro h
  have hlist : decode (passing (.obj [("kind", .str "ref"), ("step", .str "take"),
      ("returnIndex", .int 0), ("mode", .arr [])])) = .error .wrongType := rfl
  rcases h _ with ⟨doc, hdoc⟩ | ⟨e, he, hof⟩
  · exact nomatch hdoc.symm.trans hlist
  · cases he.symm.trans hlist
    cases hof

/-- A literal with a line feed at its end is refused for its digits. -/
example : decode (passing (.obj [("kind", .str "literal"), ("value", .str "5n\n")])) =
    .error (.invalidInteger "5n") := rfl

end Plan

end MovePlan
