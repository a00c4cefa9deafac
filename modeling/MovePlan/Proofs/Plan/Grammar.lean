import Mathlib.Algebra.Order.Field.Rat
import MovePlan.Proofs.Graph.Place
import MovePlan.Proofs.Plan.Accepted

/-!
# The grammar of plans

Which plans are decoded, and to what, is told by a grammar that says nothing of how a plan is gone
through (`PlanReads`): what is in the fields of tokens, arguments and steps, that the items of lists are read
one by one, and that no label comes twice. The decoder takes exactly these plans (`decode_reads_grammar`),
which is shown from the inside out, with an equivalence for each part. Every value that counts as not given
stands for no type arguments; that null alone does is not so (`decode_reads_more_than_null`).
-/

namespace MovePlan

open Graph Json Numeric Error

/-! ## Numbers that are integers -/

namespace Numeric.Binary64

/-- The number that a finite floating-point number is. -/
def value? : Binary64 → Option ℚ
  | finite negative m e => some ((if negative then -1 else 1) * (m * 2 ^ e))
  | _ => none

/-- The quotient of a binary number is its value. -/
theorem quotient_eq (m : Nat) (e : Int) :
    (m : ℚ) * 2 ^ e = (quotient m e).1 / (quotient m e).2 := by
  cases e with
  | ofNat k => simp [quotient, twoTo]
  | negSucc k => simp [quotient, twoTo, zpow_negSucc, div_eq_mul_inv]

/-- A quotient is an integer if nothing remains. -/
theorem div_eq_iff_mod {a b : Nat} (hb : 0 < b) {n : Int} :
    (a : ℚ) / b = n ↔ a % b = 0 ∧ ((a / b : Nat) : Int) = n := by
  have hb' : (b : ℚ) ≠ 0 := Nat.cast_ne_zero.mpr (Nat.ne_of_gt hb)
  constructor
  · intro h
    have ha : (a : Int) = b * n := by
      rw [div_eq_iff hb', mul_comm] at h
      exact_mod_cast h
    refine ⟨Nat.mod_eq_zero_of_dvd (Int.natCast_dvd_natCast.mp ⟨n, ha⟩), ?_⟩
    rw [Int.natCast_ediv, ha, Int.mul_ediv_cancel_left n (by omega)]
  · rintro ⟨hmod, rfl⟩
    obtain ⟨c, rfl⟩ := Nat.dvd_of_mod_eq_zero hmod
    rw [Nat.mul_div_cancel_left c hb, Nat.cast_mul, mul_div_cancel_left₀ _ hb', Int.cast_natCast]

/-- A number is taken for an integer exactly if it is one. -/
theorem truncate?_eq_some_iff {x : Binary64} {n : Int} :
    (x.isInteger = true ∧ x.truncate? = some n) ↔ x.value? = some (n : ℚ) := by
  cases x with
  | finite negative m e =>
    have hpos : 0 < (quotient m e).2 := twoTo_pos _
    have hinteger : (finite negative m e).isInteger = true ↔
        (quotient m e).1 % (quotient m e).2 = 0 := beq_iff_eq
    rw [value?, quotient_eq, Option.some.injEq, hinteger]
    cases negative with
    | false =>
      rw [if_neg Bool.false_ne_true, one_mul, div_eq_iff_mod hpos]
      exact and_congr_right fun _ => Option.some_inj
    | true =>
      rw [if_pos rfl, neg_one_mul, neg_eq_iff_eq_neg, ← Int.cast_neg, div_eq_iff_mod hpos,
        ← neg_eq_iff_eq_neg]
      exact and_congr_right fun _ => Option.some_inj
  | _ => simp [isInteger, value?]

end Numeric.Binary64

/-! ## The grammar -/

namespace Json

/-- The values that count as not given. -/
inductive NotGiven : Json → Prop where
  | null : NotGiven .null
  | false : NotGiven (.bool false)
  | zero : NotGiven (.int 0)
  | floatZero {x : Binary64} (h : x.isZero = true) : NotGiven (.float x)
  | text : NotGiven (.str "")
  | list : NotGiven (.arr [])
  | object : NotGiven (.obj [])

/-- What counts as not given, without regard to how it is tested. -/
theorem given_eq_false_iff {v : Json} : v.given = Bool.false ↔ NotGiven v := by
  constructor
  · intro h
    cases v with
    | null => exact .null
    | bool b => cases b with
      | false => exact .false
      | true => cases h
    | int n =>
      obtain rfl : n = 0 := by simpa [given] using h
      exact .zero
    | float x => exact .floatZero (by simpa [given] using h)
    | str s =>
      obtain rfl : s = "" := by simpa [given] using h
      exact .text
    | arr xs =>
      obtain rfl : xs = [] := by simpa [given] using h
      exact .list
    | obj fs =>
      obtain rfl : fs = [] := by simpa [given] using h
      exact .object
  · rintro (_ | _ | _ | h | _ | _ | _)
    case floatZero => rw [given, h]; rfl
    all_goals rfl

end Json

namespace Plan

/-- What is read of a token. -/
inductive TokenReads : Json → Token → Prop where
  | token {fields : Fields} {symbol metadata : String} {decimals : Nat}
    (hsymbol : field? "symbol" fields = some (.str symbol)) (hs : symbol ≠ "")
    (hmetadata : field? "metadata" fields = some (.str metadata)) (hm : metadata ≠ "")
    (hdecimals : field? "decimals" fields = some (.nat decimals)) :
    TokenReads (.obj fields) ⟨symbol, metadata, decimals⟩

/-- What is read of a literal's value. -/
inductive LiteralReads : Json → Json → Prop where
  /-- A text that stands for a large integer or for itself. -/
  | text {s : String} {value : Json} (h : decodeLiteral (.str s) = .ok value) :
    LiteralReads (.str s) value
  | bool (b : Bool) : LiteralReads (.bool b) (.bool b)
  | int (n : Int) : LiteralReads (.int n) (.int n)
  | float {x : Binary64} {n : Int} (h : x.value? = some (n : ℚ)) : LiteralReads (.float x) (.int n)

/-- What is read of a reference's mode, which may be missing. -/
inductive ModeReads : Option Json → Mode → Prop where
  | missing : ModeReads none .move
  | word (m : Mode) : ModeReads (some (.str m.word)) m

/-- What is read of an argument. -/
inductive ArgReads : Json → Arg → Prop where
  | signer {fields : Fields} (hkind : field? "kind" fields = some (.str "signer")) :
    ArgReads (.obj fields) .signer
  | literal {fields : Fields} {v value : Json}
    (hkind : field? "kind" fields = some (.str "literal"))
    (hvalue : field? "value" fields = some v) (hv : LiteralReads v value) :
    ArgReads (.obj fields) (.literal value)
  | ref {fields : Fields} {step : String} {index : Nat} {mode : Mode}
    (hkind : field? "kind" fields = some (.str "ref"))
    (hstep : field? "step" fields = some (.str step)) (hs : step ≠ "")
    (hindex : field? "returnIndex" fields = some (.nat index))
    (hmode : ModeReads (field? "mode" fields) mode) :
    ArgReads (.obj fields) (.ref ⟨step, index, mode⟩)

section Unset

/-! Which values stand for no type arguments is a parameter of the grammar. -/

variable (Unset : Json → Prop)

/-- What is read of type arguments. -/
inductive TypesRead : Json → List Json → Prop where
  | unset {v : Json} (h : Unset v) : TypesRead v []
  | list (ts : List String) : TypesRead (.arr (ts.map .str)) (ts.map .str)

/-- What is read of a step. -/
inductive StepReads : Json → Step → Prop where
  | step {fields : Fields} {label function : String} {id : Move.FunctionId}
    {types : List Json} {args : List Arg}
    (hlabel : field? "label" fields = some (.str label)) (hl : label ≠ "")
    (hfunction : field? "function" fields = some (.str function))
    (hf : StepGraph.functionOf (.str function) = .ok id)
    (htypes : TypesRead Unset ((field? "typeArguments" fields).getD .null) types)
    {xs : List Json} (hxs : field? "args" fields = some (.arr xs))
    (hargs : List.Forall₂ ArgReads xs args) :
    StepReads (.obj fields) ⟨label, id, types, args⟩

/-- What is read of the tokens of a plan, which may be missing or null. -/
inductive TokensRead : Json → List Token → Prop where
  | null : TokensRead .null []
  | list {xs : List Json} {tokens : List Token} (h : List.Forall₂ TokenReads xs tokens) :
    TokensRead (.arr xs) tokens

/-- What is read of a plan. -/
inductive PlanReads : Json → List Token → List Step → Prop where
  | plan {fields : Fields} {xs : List Json} {tokens : List Token} {steps : List Step}
    (htokens : TokensRead ((field? "tokens" fields).getD .null) tokens)
    (hxs : field? "steps" fields = some (.arr xs))
    (hsteps : List.Forall₂ (StepReads Unset) xs steps)
    (hnodup : (steps.map Step.label).Nodup) :
    PlanReads (.obj fields) tokens steps

end Unset

/-! ## Fields -/

variable {path : String} {v : Json} {fields : Fields} {key : String}

/-- A text is read exactly if it is there and not empty. -/
theorem textAt_get_eq_ok_iff {s : String} :
    textAt path (Json.get key (.obj fields)) = .ok s ↔ field? key fields = some (.str s) ∧ s ≠ "" := by
  constructor
  · intro h
    obtain ⟨hget, hs⟩ := textAt_eq_ok h
    exact ⟨field?_of_getD hget nofun, hs⟩
  · rintro ⟨hfield, hs⟩
    rw [get_of_field? hfield, textAt_of_ne hs]

/-- A number is read exactly if it is there and not negative. -/
theorem naturalAt_get_eq_ok_iff {n : Nat} :
    naturalAt path (Json.get key (.obj fields)) = .ok n ↔ field? key fields = some (.nat n) := by
  constructor
  · exact fun h => field?_of_getD (naturalAt_eq_ok h) nofun
  · intro hfield
    rw [get_of_field? hfield]
    exact naturalAt_of_nonneg (Int.natCast_nonneg n) path

/-- A mode is read exactly if it is missing or a word. -/
theorem modeAt_eq_ok_iff {mode : Option Json} {m : Mode} :
    modeAt path mode = .ok m ↔ ModeReads mode m := by
  constructor
  · intro h
    cases mode with
    | none => cases h; exact .missing
    | some v => rw [modeAt_eq_ok h]; exact .word m
  · rintro (_ | _)
    · rfl
    · exact modeAt_word m path

theorem exists_texts {xs : List Json} (h : ∀ x ∈ xs, x.text?.isSome = true) :
    ∃ ts : List String, xs = ts.map .str := by
  induction xs with
  | nil => exact ⟨[], rfl⟩
  | cons x rest ih =>
    obtain ⟨hx, hrest⟩ := List.forall_mem_cons.mp h
    obtain ⟨t, ht⟩ := Option.isSome_iff_exists.mp hx
    obtain ⟨ts, rfl⟩ := ih hrest
    exact ⟨t :: ts, by rw [eq_str_of_text? ht, List.map_cons]⟩

/-- Type arguments are read exactly if they are not given or texts. -/
theorem typeArgumentsAt_eq_ok_iff {types : List Json} :
    typeArgumentsAt path v = .ok types ↔ TypesRead NotGiven v types := by
  constructor
  · intro h
    unfold typeArgumentsAt at h
    split at h
    · next hgiven =>
      cases h
      exact .unset (given_eq_false_iff.mp (by simpa using hgiven))
    · split at h
      · split at h
        · next hall =>
          cases h
          obtain ⟨ts, rfl⟩ := exists_texts (List.all_eq_true.mp hall)
          exact .list ts
        · cases h
      · cases h
  · rintro (h | ts)
    · exact if_pos (by rw [given_eq_false_iff.mpr h]; rfl)
    · exact typeArgumentsAt_arr (by simp [Json.text?]) path

/-! ## Arguments and tokens -/

theorem literalAt_float_eq_ok_iff {x : Binary64} {w : Json} :
    literalAt path (.float x) = .ok w ↔ ∃ n : Int, x.value? = some (n : ℚ) ∧ w = .int n := by
  simp only [literalAt, ← Binary64.truncate?_eq_some_iff]
  constructor
  · intro h
    split at h
    · next n hn =>
      split at h
      · next hinteger =>
        cases h
        exact ⟨n, ⟨hinteger, hn⟩, rfl⟩
      · cases h
    · cases h
  · rintro ⟨n, ⟨hinteger, hn⟩, rfl⟩
    rw [hn]
    exact if_pos hinteger

/-- A literal is read exactly if it is a value that a literal may have. -/
theorem literalAt_eq_ok_iff {value : Json} :
    (∃ w, literalAt path v = .ok w ∧ decodeLiteral w = .ok value) ↔ LiteralReads v value := by
  constructor
  · rintro ⟨w, hw, hvalue⟩
    cases v with
    | str s => cases hw; exact .text hvalue
    | int n => cases hw; cases hvalue; exact .int n
    | bool b => cases hw; cases hvalue; exact .bool b
    | float x =>
      obtain ⟨n, hn, rfl⟩ := literalAt_float_eq_ok_iff.mp hw
      cases hvalue
      exact .float hn
    | null | arr _ | obj _ => cases hw
  · intro h
    cases h with
    | text h => exact ⟨_, rfl, h⟩
    | bool | int => exact ⟨_, rfl, rfl⟩
    | float h => exact ⟨_, literalAt_float_eq_ok_iff.mpr ⟨_, h, rfl⟩, rfl⟩

/-- An argument is read exactly if it is of one of the three kinds. -/
theorem decodeArg_eq_ok_iff {a : Arg} : decodeArg path v = .ok a ↔ ArgReads v a := by
  constructor
  · intro h
    cases v with
    | obj fields =>
      have hkind : ∀ {kind}, (Json.get "kind" (.obj fields)).text? = some kind →
          field? "kind" fields = some (.str kind) := fun hk => field?_of_getD (eq_str_of_text? hk) nofun
      simp only [decodeArg, isObject, Bool.not_true, Bool.false_eq_true, if_false] at h
      split at h
      · next hk =>
        cases h
        exact .signer (hkind hk)
      · next hk =>
        split at h
        · cases h
        · next v hv =>
          simp only [bind_eq_ok_iff] at h
          obtain ⟨w, hw, value, hvalue, ⟨⟩⟩ := h
          exact .literal (hkind hk) hv (literalAt_eq_ok_iff.mp ⟨w, hw, hvalue⟩)
      · next hk =>
        simp only [bind_eq_ok_iff, textAt_get_eq_ok_iff, naturalAt_get_eq_ok_iff,
          modeAt_eq_ok_iff] at h
        obtain ⟨step, ⟨hstep, hs⟩, index, hindex, mode, hmode, ⟨⟩⟩ := h
        exact .ref (hkind hk) hstep hs hindex hmode
      · cases h
    | _ => cases h
  · rintro (⟨hkind⟩ | ⟨hkind, hvalue, hv⟩ | ⟨hkind, hstep, hs, hindex, hmode⟩)
    · simp only [decodeArg, isObject, get_of_field? hkind, Json.text?]
      rfl
    · obtain ⟨w, hw, hvalue'⟩ := literalAt_eq_ok_iff.mpr hv
      simp only [decodeArg, isObject, get_of_field? hkind, Json.text?, Json.get?, hvalue]
      exact bind_eq_ok_iff.mpr ⟨w, hw, bind_eq_ok_iff.mpr ⟨_, hvalue', rfl⟩⟩
    · simp only [decodeArg, isObject, get_of_field? hkind, Json.text?]
      exact bind_eq_ok_iff.mpr ⟨_, textAt_get_eq_ok_iff.mpr ⟨hstep, hs⟩, bind_eq_ok_iff.mpr
        ⟨_, naturalAt_get_eq_ok_iff.mpr hindex, bind_eq_ok_iff.mpr
          ⟨_, modeAt_eq_ok_iff.mpr hmode, rfl⟩⟩⟩

/-- A token is read exactly if its fields are. -/
theorem decodeToken_eq_ok_iff {t : Token} : decodeToken path v = .ok t ↔ TokenReads v t := by
  cases v with
  | obj fields =>
    simp only [decodeToken, isObject, Bool.not_true, Bool.false_eq_true, if_false, bind_eq_ok_iff,
      textAt_get_eq_ok_iff, naturalAt_get_eq_ok_iff]
    constructor
    · rintro ⟨symbol, ⟨hsymbol, hs⟩, metadata, ⟨hmetadata, hm⟩, decimals, hdecimals, ⟨⟩⟩
      exact .token hsymbol hs hmetadata hm hdecimals
    · rintro ⟨hsymbol, hs, hmetadata, hm, hdecimals⟩
      exact ⟨_, ⟨hsymbol, hs⟩, _, ⟨hmetadata, hm⟩, _, hdecimals, rfl⟩
  | _ =>
    constructor
    · intro h
      cases h
    · intro h
      cases h

/-- The forms of arguments that are decoded. -/
inductive ArgForm (fields : Fields) : Prop where
  | signer (h : field? "kind" fields = some (.str "signer"))
  | literal (h : field? "kind" fields = some (.str "literal"))
  | ref {n : Nat} (h : field? "kind" fields = some (.str "ref"))
    (hindex : field? "returnIndex" fields = some (.int n))
    (hmode : ∀ v, field? "mode" fields = some v → ∃ m : Mode, v = .str m.word)

theorem ArgReads.exists_argForm {a : Arg} (h : ArgReads v a) :
    ∃ fields, v = .obj fields ∧ ArgForm fields := by
  cases h with
  | signer hkind => exact ⟨_, rfl, .signer hkind⟩
  | literal hkind _ _ => exact ⟨_, rfl, .literal hkind⟩
  | ref hkind _ _ hindex hmode =>
    refine ⟨_, rfl, .ref hkind hindex fun v hv => ?_⟩
    rw [hv] at hmode
    cases hmode
    exact ⟨_, rfl⟩

theorem argForm_of_decodeArg {a : Arg} (h : decodeArg path v = .ok a) :
    ∃ fields, v = .obj fields ∧ ArgForm fields :=
  (decodeArg_eq_ok_iff.mp h).exists_argForm

theorem decimals_of_decodeToken {t : Token} (h : decodeToken path v = .ok t) :
    ∃ fields n, v = .obj fields ∧ field? "decimals" fields = some (.int n) := by
  cases decodeToken_eq_ok_iff.mp h with
  | token _ _ _ _ hdecimals => exact ⟨_, _, rfl, hdecimals⟩

/-! ## Lists -/

/-- A list is decoded exactly if its items are, one by one. -/
theorem decodeEach_eq_ok_iff {α : Type} {decode : String → Json → Except Error α}
    {R : Json → α → Prop} (h : ∀ path x a, decode path x = .ok a ↔ R x a) {i : Nat}
    {xs : List Json} {as : List α} :
    decodeEach decode path i xs = .ok as ↔ List.Forall₂ R xs as := by
  induction xs generalizing i as with
  | nil =>
    rw [List.forall₂_nil_left_iff, decodeEach, Except.ok.injEq]
    exact eq_comm
  | cons x rest ih =>
    rw [List.forall₂_cons_left_iff]
    simp only [decodeEach, bind_eq_ok_iff, h, ih]
    constructor
    · rintro ⟨a, ha, as, has, ⟨⟩⟩
      exact ⟨a, as, ha, has, rfl⟩
    · rintro ⟨a, as, ha, has, rfl⟩
      exact ⟨a, ha, as, has, rfl⟩

theorem decodeArgs_eq_ok_iff {xs : List Json} {args : List Arg} {i : Nat} :
    decodeEach decodeArg path i xs = .ok args ↔ List.Forall₂ ArgReads xs args := by
  refine decodeEach_eq_ok_iff fun _ _ _ => ?_
  exact decodeArg_eq_ok_iff

/-- Tokens are read exactly if they are missing or a list of tokens. -/
theorem decodeTokens_eq_ok_iff {tokens : List Token} :
    decodeTokens v = .ok tokens ↔ TokensRead v tokens := by
  have hlist : ∀ xs, decodeEach decodeToken "$.tokens" 0 xs = .ok tokens ↔
      List.Forall₂ TokenReads xs tokens := by
    refine fun _ => decodeEach_eq_ok_iff fun _ _ _ => ?_
    exact decodeToken_eq_ok_iff
  constructor
  · intro h
    cases v with
    | null => cases h; exact .null
    | arr xs => exact .list ((hlist xs).mp h)
    | _ => cases h
  · rintro (_ | h)
    · rfl
    · exact (hlist _).mpr h

/-! ## Steps and plans -/

/-- What is decoded and added to a graph is a step as it is read, under a new label. -/
theorem exists_reads_of_add {draft : StepGraph.Draft} {g g' : StepGraph}
    (h : decodeStep path v = .ok draft) (hadd : g.add draft = .ok g') :
    ∃ s, StepReads NotGiven v s ∧ g'.steps = g.steps ++ [s] := by
  obtain ⟨fields, rfl⟩ := exists_obj_of_decodeStep h
  obtain ⟨label, function, types, xs, args, hlabel, hfunction, htypes, hxs, hargs, rfl⟩ :=
    decodeStep_obj_eq_ok_iff.mp h
  obtain ⟨⟨label', id, types', args'⟩, hs, hsteps⟩ := StepGraph.exists_step_of_add hadd
  refine ⟨_, ?_, hsteps⟩
  obtain ⟨⟨hlabel', -, -⟩, hf, htypes', hargs'⟩ := hs
  obtain ⟨hfield, hl⟩ := textAt_get_eq_ok_iff.mp hlabel
  cases hlabel'
  cases hargs'
  cases (Json.membersIfGiven_arr types).symm.trans htypes'
  exact .step hfield hl (field?_of_getD hfunction nofun) hf (typeArgumentsAt_eq_ok_iff.mp htypes)
    (field?_of_getD hxs nofun) (decodeArgs_eq_ok_iff.mp hargs)

/-- A step that is read is decoded, and added to a graph that does not have its label. -/
theorem exists_add_of_reads {g : StepGraph} {s : Step} (h : StepReads NotGiven v s)
    (hnew : s.label ∉ g.labels) (path : String) : ∃ draft g', decodeStep path v = .ok draft ∧
      g.add draft = .ok g' ∧ g'.steps = g.steps ++ [s] := by
  obtain @⟨fields, label, function, id, types, args, hlabel, hl, hfunction, hf, htypes, xs, hxs, hargs⟩ := h
  let draft : StepGraph.Draft := ⟨.str label, .field (.str function), .arr types, args⟩
  have hdraft : decodeStep path (.obj fields) = .ok draft :=
    decodeStep_obj_eq_ok_iff.mpr ⟨label, function, types, xs, args,
      textAt_get_eq_ok_iff.mpr ⟨hlabel, hl⟩, get_of_field? hfunction,
      typeArgumentsAt_eq_ok_iff.mpr htypes, get_of_field? hxs,
      decodeArgs_eq_ok_iff.mpr hargs, rfl⟩
  refine ⟨draft, ?_⟩
  rcases g.add_cases draft with ⟨e, he, -⟩ | ⟨⟨label', id', types', args'⟩, g', hs, hadd, hsteps⟩
  · cases he with
    | label h => exact absurd (h label rfl) hl
    | duplicate h hm =>
      cases h
      exact absurd hm hnew
    | function _ he => cases hf.symm.trans he
    | typeArguments _ _ hlone => cases types <;> cases hlone
  · obtain ⟨⟨hlabel', -, -⟩, hf', htypes', hargs'⟩ := hs
    cases hlabel'
    cases hargs'
    cases hf.symm.trans hf'
    cases (Json.membersIfGiven_arr types).symm.trans htypes'
    exact ⟨g', hdraft, hadd, hsteps⟩

/-- Steps that are decoded are in the grammar. -/
theorem exists_reads_of_decodeSteps {i : Nat} {xs : List Json} {g g' : StepGraph}
    (h : decodeSteps i xs g = .ok g') :
    ∃ steps, List.Forall₂ (StepReads NotGiven) xs steps ∧ g'.steps = g.steps ++ steps := by
  induction xs generalizing i g with
  | nil =>
    cases h
    exact ⟨[], .nil, (List.append_nil _).symm⟩
  | cons x rest ih =>
    obtain ⟨draft, g₁, hdraft, hadd, hrest⟩ := decodeSteps_cons_eq_ok_iff.mp h
    obtain ⟨s, hs, hstep⟩ := exists_reads_of_add hdraft hadd
    obtain ⟨steps, hsteps, hg'⟩ := ih hrest
    exact ⟨s :: steps, .cons hs hsteps, by rw [hg', hstep, List.append_assoc]; rfl⟩

/-- Steps in the grammar are decoded, if their labels are new. -/
theorem exists_decodeSteps_of_reads {xs : List Json} {g : StepGraph} {steps : List Step}
    (h : List.Forall₂ (StepReads NotGiven) xs steps)
    (hnodup : ((g.steps ++ steps).map Step.label).Nodup) (i : Nat) :
    ∃ g', decodeSteps i xs g = .ok g' ∧ g'.steps = g.steps ++ steps := by
  induction h generalizing g i with
  | nil => exact ⟨g, rfl, (List.append_nil _).symm⟩
  | @cons x s rest steps hs hsteps ih =>
    have hnew : s.label ∉ g.labels := by
      rw [List.map_append, List.map_cons] at hnodup
      exact fun hm => (List.nodup_append.mp hnodup).2.2 _ hm _ List.mem_cons_self rfl
    obtain ⟨draft, g₁, hdraft, hadd, hg₁⟩ := exists_add_of_reads hs hnew s!"$.steps[{i}]"
    obtain ⟨g', hrest, hg'⟩ := ih (g := g₁) (by simpa [hg₁] using hnodup) (i + 1)
    exact ⟨g', decodeSteps_cons_eq_ok_iff.mpr ⟨draft, g₁, hdraft, hadd, hrest⟩, by simp [hg', hg₁]⟩

/-- A plan that is decoded is in the grammar. -/
theorem planReads_of_decode {p : Json} {doc : Document} (h : decode p = .ok doc) :
    PlanReads NotGiven p doc.tokens doc.graph.steps := by
  obtain ⟨fields, xs, tokens, graph, rfl, hxs, htokens, hgraph, rfl⟩ := decode_eq_ok_iff.mp h
  obtain ⟨steps, hsteps, hg⟩ := exists_reads_of_decodeSteps hgraph
  refine .plan (decodeTokens_eq_ok_iff.mp htokens) (field?_of_getD hxs nofun) ?_ graph.nodup_labels
  rw [hg]
  exact hsteps

/-- A plan in the grammar is decoded, as what is read of it. -/
theorem exists_decode_of_planReads {p : Json} {tokens : List Token} {steps : List Step}
    (h : PlanReads NotGiven p tokens steps) :
    ∃ doc, decode p = .ok doc ∧ doc.tokens = tokens ∧ doc.graph.steps = steps := by
  obtain ⟨htokens, hxs, hsteps, hnodup⟩ := h
  obtain ⟨graph, hgraph, hg⟩ := exists_decodeSteps_of_reads (g := .empty) hsteps hnodup 0
  exact ⟨⟨graph, tokens⟩, decode_eq_ok_iff.mpr ⟨_, _, tokens, graph, rfl, get_of_field? hxs,
    decodeTokens_eq_ok_iff.mpr htokens, hgraph, rfl⟩, rfl, hg⟩

/-- **The decoder takes the plans of the grammar, and no others**, and gives what is read of them: the tokens
and one step for each, in their order. -/
theorem decode_reads_grammar (p : Json) (tokens : List Token) (steps : List Step) :
    (∃ doc, decode p = .ok doc ∧ doc.tokens = tokens ∧ doc.graph.steps = steps) ↔
      PlanReads NotGiven p tokens steps := by
  constructor
  · rintro ⟨doc, hdoc, rfl, rfl⟩
    exact planReads_of_decode hdoc
  · exact exists_decode_of_planReads

/-- A plan whose type arguments are false. -/
def falselyTyped : Json :=
  .obj [("steps", .arr [.obj [("label", .str "a"), ("function", .str "0x1::m::f"),
    ("typeArguments", .bool false), ("args", .arr [])]])]

/-- Null is not all that stands for no type arguments. -/
theorem decode_reads_more_than_null : ¬ ∀ p, (∃ doc, decode p = .ok doc) ↔
    ∃ tokens steps, PlanReads (· = .null) p tokens steps := by
  intro h
  obtain ⟨tokens, steps, hreads⟩ := (h falselyTyped).mp ⟨_, rfl⟩
  cases hreads with
  | plan _ hxs hsteps _ =>
    cases hxs
    cases hsteps with
    | cons hstep _ =>
      cases hstep with
      | step _ _ _ _ htypes _ _ =>
        cases htypes with
        | unset h => cases h

end Plan

end MovePlan
