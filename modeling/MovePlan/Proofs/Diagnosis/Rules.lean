import MovePlan.Diagnosis.Rules
import MovePlan.Proofs.Diagnosis.Abort

/-!
# The rule that explains an abort

A failure is explained by the first rule whose words are in its status (`IsFirstRule`). A status that tells
of an abort has one explanation, which tells of it too (`diagnose_of_parseAbort`). It is that of a rule, of
the last one about aborts as such at the least, if the words of one are there. An abort need not be told in
the words of that rule: one without an explanation is told as `Move abort` (`diagnose_of_parseAbort_unknown`).
-/

namespace MovePlan.Diagnosis

open Text

variable {s : List Char} {status : String} {step : Json} {abort : Abort} {p : Pattern} {r : Rule}

/-! ## What a rule looks for -/

/-- Whether what a rule looks for is in a text, without regard to case: one of its texts, or the first of
them and the second after it in the same line. -/
inductive Pattern.Occurs : Pattern → List Char → Prop where
  | anyOf {texts : List String} {t : String} {s : List Char} (ht : t ∈ texts)
      (hs : Text.Occurs t.toList s) : Occurs (.anyOf texts) s
  | inOrder {first second : String} {before t between u after : List Char} (ht : Matches first.toList t)
      (hu : Matches second.toList u) (hline : '\n' ∉ between ++ u) :
      Occurs (.inOrder first second) (before ++ t ++ (between ++ u ++ after))

theorem occurs_restOfLine_iff {pattern : List Char} : Text.Occurs pattern (restOfLine s) ↔
    ∃ between t after, Matches pattern t ∧ '\n' ∉ between ++ t ∧ s = between ++ t ++ after := by
  constructor
  · rintro ⟨between, t, rest, hline, ht⟩
    refine ⟨between, t, rest ++ s.dropWhile (· != '\n'), ht, fun hmem => ?_, ?_⟩
    · have hin : '\n' ∈ restOfLine s := hline ▸ List.mem_append_left rest hmem
      simpa using List.mem_takeWhile_imp hin
    · rw [← List.append_assoc, ← hline, restOfLine, List.takeWhile_append_dropWhile]
  · rintro ⟨between, t, after, ht, hline, rfl⟩
    have hpos : ∀ c ∈ between ++ t, (c != '\n') = true := by
      intro c hc
      rw [bne_iff_ne]
      rintro rfl
      exact hline hc
    have hline : restOfLine (between ++ t ++ after) = between ++ t ++ restOfLine after := by
      rw [restOfLine, List.takeWhile_append_of_pos hpos, restOfLine]
    exact ⟨between, t, restOfLine after, hline, ht⟩

theorem holdsInOrder_eq_true_iff {first second : List Char} : holdsInOrder first second s = true ↔
    ∃ rest tail, rest <:+ s ∧ afterCaseless? first rest = some tail ∧
      Text.Occurs second (restOfLine tail) := by
  rw [holdsInOrder, searchFrom_isSome_iff]
  refine exists_congr fun rest => ?_
  cases afterCaseless? first rest with
  | none => simp
  | some tail => simp [← holdsCaseless_iff]

theorem holdsInOrder_iff {first second : String} :
    holdsInOrder first.toList second.toList s = true ↔ (Pattern.inOrder first second).Occurs s := by
  rw [holdsInOrder_eq_true_iff]
  constructor
  · rintro ⟨rest, tail, ⟨before, rfl⟩, hafter, hsecond⟩
    obtain ⟨t, ht, rfl⟩ := afterCaseless?_eq_some_iff.1 hafter
    obtain ⟨between, u, after, hu, hline, rfl⟩ := occurs_restOfLine_iff.1 hsecond
    rw [← List.append_assoc]
    exact .inOrder ht hu hline
  · intro h
    generalize hp : Pattern.inOrder first second = p at h
    cases h with
    | anyOf => cases hp
    | @inOrder _ _ before t between u after ht hu hline =>
      cases hp
      exact ⟨t ++ (between ++ u ++ after), between ++ u ++ after, ⟨before, by simp⟩,
        afterCaseless?_eq_some_iff.2 ⟨t, ht, rfl⟩,
        occurs_restOfLine_iff.2 ⟨between, u, after, hu, hline, rfl⟩⟩

/-- **A rule applies exactly if what it looks for is in the status.** -/
theorem holds_iff : p.holds s = true ↔ p.Occurs s := by
  cases p with
  | anyOf texts =>
    rw [Pattern.holds, List.any_eq_true]
    constructor
    · rintro ⟨t, ht, hs⟩
      exact .anyOf ht (holdsCaseless_iff.1 hs)
    · rintro ⟨ht, hs⟩
      exact ⟨_, ht, holdsCaseless_iff.2 hs⟩
  | inOrder first second => exact holdsInOrder_iff

/-! ## The first rule -/

/-- Whether a rule is the first that applies to a text. -/
def IsFirstRule (r : Rule) (s : List Char) : Prop :=
  ∃ before after, rules = before ++ r :: after ∧ r.pattern.Occurs s ∧ ∀ q ∈ before, ¬q.pattern.Occurs s

theorem find?_eq_some_iff : (rules.find? fun r => r.pattern.holds s) = some r ↔ IsFirstRule r s := by
  simp only [List.find?_eq_some_iff_append, IsFirstRule, Bool.not_eq_true', ← Bool.not_eq_true, holds_iff]
  constructor
  · rintro ⟨hr, before, after, hrules, hbefore⟩
    exact ⟨before, after, hrules, hr, hbefore⟩
  · rintro ⟨before, after, hrules, hr, hbefore⟩
    exact ⟨hr, before, after, hrules, hbefore⟩

theorem find?_eq_none_iff :
    (rules.find? fun r => r.pattern.holds s) = none ↔ ∀ r ∈ rules, ¬r.pattern.Occurs s := by
  simp only [List.find?_eq_none, holds_iff]

theorem IsFirstRule.mem (h : IsFirstRule r s) : r ∈ rules := by
  obtain ⟨before, after, hrules, -, -⟩ := h
  rw [hrules]
  exact List.mem_append_right before List.mem_cons_self

/-- Every rule has a code of its own, other than that of what no rule knows. -/
theorem code_ne_unknown : ∀ r ∈ rules, r.code ≠ "UNKNOWN_ERROR" := by decide

/-! ## Aborts and rules -/

/-- A status that tells of an abort is not empty and no success. -/
theorem diagnose_of_findAbort? {text : AbortText} (h : findAbort? status = some text) :
    diagnose status step = (diagnoseFailure status step).map fun d => [d] := by
  have hfailed : ¬(status = "" ∨ status = successStatus) := by
    have hempty : findAbort? "" = none := by decide
    have hsuccess : findAbort? successStatus = none := by decide
    rintro (rfl | rfl)
    · rw [hempty] at h
      cases h
    · rw [hsuccess] at h
      cases h
  rw [diagnose, if_neg hfailed]

theorem exists_findAbort?_of_parseAbort (h : parseAbort status = .ok (some abort)) :
    ∃ text, findAbort? status = some text := by
  unfold parseAbort at h
  split at h
  · cases h
  · next text htext => exact ⟨text, htext⟩

/-- An abort that can be read is explained. -/
theorem diagnose_eq_of_parseAbort (h : parseAbort status = .ok (some abort)) :
    diagnose status step = .ok [explain status step (some abort)] := by
  obtain ⟨text, htext⟩ := exists_findAbort?_of_parseAbort h
  rw [diagnose_of_findAbort? htext, diagnoseFailure, h]
  rfl

/-- Nothing is explained just where the abort that is told of cannot be read. -/
theorem diagnose_eq_error_iff {e : Error} :
    diagnose status step = .error e ↔ parseAbort status = .error e := by
  cases hfind : findAbort? status with
  | none =>
    have hread : parseAbort status = .ok none := by
      rw [parseAbort, hfind]
    rw [diagnose, diagnoseFailure, hread]
    split <;> simp [Except.map, bind, Except.bind, pure, Except.pure]
  | some text =>
    rw [diagnose_of_findAbort? hfind, diagnoseFailure]
    cases parseAbort status <;> simp [Except.map, bind, Except.bind, pure, Except.pure]

/-- An explanation tells of its step and its abort. -/
theorem explain_step_abort (abort : Option Abort) :
    (explain status step abort).step = step ∧ (explain status step abort).abort = abort := by
  rw [explain]
  split <;> exact ⟨rfl, rfl⟩

theorem explain_of_isFirstRule (abort : Option Abort) (h : IsFirstRule r status.toList) :
    explain status step abort =
      { code := r.code, title := r.title, detail := r.detail, suggestion := r.suggestion, step, abort } := by
  rw [explain, find?_eq_some_iff.2 h]

/-- The rule about aborts as such is the last. -/
theorem isFirstRule_getLast (haborted : Text.Occurs "aborted".toList s)
    (hothers : ∀ r ∈ rules.dropLast, ¬r.pattern.Occurs s) : IsFirstRule (rules.getLast (by decide)) s :=
  ⟨rules.dropLast, [], (List.dropLast_concat_getLast _).symm,
    .anyOf (List.mem_singleton_self _) haborted, hothers⟩

theorem explain_code_eq_iff (abort : Option Abort) :
    (explain status step abort).code = "UNKNOWN_ERROR" ↔ ∀ r ∈ rules, ¬r.pattern.Occurs status.toList := by
  rw [← find?_eq_none_iff, explain]
  split
  · next r hr =>
    rw [hr]
    simpa using code_ne_unknown r (find?_eq_some_iff.1 hr).mem
  · next hnone => simp [hnone]

/-- **A status that tells of an abort has one diagnosis, which tells of it.** It is that of the first rule
that applies: of the last one, about aborts as such, if that is the only one. -/
theorem diagnose_of_parseAbort (step : Json) (h : parseAbort status = .ok (some abort)) :
    ∃ d, diagnose status step = .ok [d] ∧ d.abort = some abort ∧ d.step = step ∧
      (∀ r, IsFirstRule r status.toList →
        d.code = r.code ∧ d.title = r.title ∧ d.detail = r.detail ∧ d.suggestion = r.suggestion) ∧
      (d.code ≠ "UNKNOWN_ERROR" ↔ ∃ r ∈ rules, r.pattern.Occurs status.toList) ∧
      (Text.Occurs "aborted".toList status.toList →
        (∀ r ∈ rules.dropLast, ¬r.pattern.Occurs status.toList) → d.code = "MOVE_ABORT") := by
  obtain ⟨hstep, habort⟩ : (explain status step (some abort)).step = step ∧
      (explain status step (some abort)).abort = some abort := explain_step_abort (some abort)
  refine ⟨explain status step (some abort), diagnose_eq_of_parseAbort h, habort, hstep, ?_, ?_, ?_⟩
  · intro r hr
    rw [explain_of_isFirstRule _ hr]
    exact ⟨rfl, rfl, rfl, rfl⟩
  · rw [Ne, explain_code_eq_iff]
    push Not
    rfl
  · intro haborted hothers
    rw [explain_of_isFirstRule _ (isFirstRule_getLast haborted hothers)]
    rfl

/-- An abort is told in the words of its rule. -/
theorem diagnose_aborted : ∃ d, diagnose "ABORTED. Move abort in 0x1::coin: 3" (.str "pay") = .ok [d] ∧
    d.abort = some ⟨3, "0x1::coin"⟩ ∧ d.code = "MOVE_ABORT" := by
  have hfind : findAbort? "ABORTED. Move abort in 0x1::coin: 3" = some ⟨⟨false, ['3']⟩, "0x1::coin"⟩ := by
    decide
  have habort := parseAbort_of_findAbort? hfind rfl
  obtain ⟨d, hd, hdabort, -, -, -, hgeneric⟩ := diagnose_of_parseAbort (.str "pay") habort
  refine ⟨d, hd, hdabort, hgeneric ?_ ?_⟩
  · rw [← holdsCaseless_iff]
    decide
  · simp only [← holds_iff]
    decide

/-- An abort that is told as `Move abort` alone is told in the words of no rule. -/
theorem diagnose_of_parseAbort_unknown :
    ¬∀ (status : String) (step : Json) (abort : Abort), parseAbort status = .ok (some abort) →
      ∃ d, diagnose status step = .ok [d] ∧ d.abort = some abort ∧ d.code ≠ "UNKNOWN_ERROR" := by
  intro h
  have hfind : findAbort? "Move abort in 0x1::coin: 3" = some ⟨⟨false, ['3']⟩, "0x1::coin"⟩ := by decide
  have habort := parseAbort_of_findAbort? hfind rfl
  have hnone : ∀ r ∈ rules, ¬r.pattern.Occurs "Move abort in 0x1::coin: 3".toList := by
    simp only [← holds_iff]
    decide
  obtain ⟨d, hd, -, hcode⟩ := h _ .null _ habort
  rw [diagnose_eq_of_parseAbort habort, Except.ok.injEq, List.singleton_inj] at hd
  rw [← hd] at hcode
  exact hcode ((explain_code_eq_iff _).2 hnone)

end MovePlan.Diagnosis
