import MovePlan.Proofs.Validation.Cached

/-!
# Where validation fails

Validation comes to a report unless a lookup in it fails, and for another reason than that it could not
be fetched. Then it fails as the lookup does (`leaks_of_validate`). This holds for every source, with a
state of its own or not.
-/

namespace MovePlan

open Move Graph Abi Error

/-- Whether an error tells that a lookup could not be fetched. -/
def Error.IsAbiFetch (e : Error) : Prop := ∃ url reason status, e = .abiFetch url reason status

namespace Abi

variable {σ : Type} {src : Source σ} {d d' : Desk σ} {e : Error}

/-- Whether a source fails at a lookup. -/
def Source.FailsAt (src : Source σ) (s : σ) : Lookup → Error → Prop
  | .function id, e => (src.function id s).1 = .error e
  | .struct id, e => (src.struct id s).1 = .error e

/-- Whether an error is that of some later lookup, which was not for want of an answer. -/
def Desk.Leaks (src : Source σ) (d : Desk σ) (e : Error) : Prop :=
  ¬e.IsAbiFetch ∧ ∃ d' l, d.Leads src d' ∧ src.FailsAt d'.source l e

/-- What fails later on the way fails on the way. -/
theorem Desk.Leads.leaks (h : d.Leads src d') (he : d'.Leaks src e) : d.Leaks src e := by
  obtain ⟨hne, d'', l, hleads, hfails⟩ := he
  exact ⟨hne, d'', l, h.trans hleads, hfails⟩

/-! ## Droppability -/

/-- A type is not judged only if the lookup of a struct in it fails. -/
theorem leaks_of_droppable {type : String} (h : (droppable src type d).1 = .error e) :
    d.Leaks src e := by
  unfold droppable at h
  split at h
  · cases h
  · cases h
  next id _ =>
    split at h
    · cases h
    · cases h
    · cases h
    next hne hs =>
      cases h
      exact ⟨fun ⟨url, reason, status, he⟩ => hne url reason status he, d, .struct id, .refl d,
        Desk.source_struct_eq_error (by rw [hs])⟩

/-- Several types, one after the other, fail only as a lookup for one of them does. -/
theorem leaks_of_droppableAll {types : List String}
    (h : (droppableAll src types d).1 = .error e) : d.Leaks src e := by
  induction types generalizing d with
  | nil => cases h
  | cons t rest ih =>
    have hfirst := leads_droppable src t d
    rw [droppableAll] at h
    split at h
    next ht =>
      cases h
      exact leaks_of_droppable (by rw [ht])
    next d' ht =>
      rw [ht] at hfirst
      split at h
      next hr =>
        cases h
        exact hfirst.leaks (ih (by rw [hr]))
      next => cases h

end Abi

namespace Validation

variable {σ : Type} {src : Source σ} {d : Desk σ} {e : Error}

/-! ## Functions -/

theorem leaks_of_fetch {id : FunctionId} (h : (fetch src id d).1 = .error e) : d.Leaks src e := by
  have hask : d.Leads src (d.function src id).2 := .function id (.refl _)
  unfold fetch at h
  split at h
  next => cases h
  next hne hs =>
    cases h
    exact ⟨fun ⟨url, reason, status, he⟩ => hne url reason status he, d, .function id, .refl d,
      Desk.source_function_eq_error (by rw [hs])⟩
  next => cases h
  next sig d' hs =>
    rw [hs] at hask
    split at h
    next hr =>
      cases h
      exact hask.leaks (leaks_of_droppableAll (by rw [hr]))
    next => cases h

/-- Answers that are put together fail with one of them. -/
theorem leaks_of_collect {ids : List FunctionId}
    (h : collect (fetchEach src ids d).1 = .error e) : d.Leaks src e := by
  induction ids generalizing d with
  | nil => cases h
  | cons id rest ih =>
    simp only [fetchEach, collect, bind_eq_error_iff, pure, Except.pure, reduceCtorEq, and_false,
      exists_false, or_false] at h
    rcases h with hhere | ⟨fetched, -, hlater⟩
    · exact leaks_of_fetch hhere
    · exact (leads_fetch src id d).leaks (ih hlater)

/-- **Validation fails only as a lookup in it does.** -/
theorem leaks_of_validate {g : StepGraph} (hg : g.IsProper)
    (h : (validate src g d).1 = .error e) : d.Leaks src e := by
  rw [validate] at h
  rcases bind_eq_error_iff.1 h with hcollect | ⟨answers, -, hreport⟩
  · exact leaks_of_collect hcollect
  -- what was answered can always be reported on
  · obtain ⟨report, hok⟩ := exists_reportOn_eq_ok hg answers
    rw [hok] at hreport
    cases hreport

end Validation

end MovePlan
