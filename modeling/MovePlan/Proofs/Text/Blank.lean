import Mathlib.Data.List.DropRight
import MovePlan.Text.Blank

/-!
# Trimming

Trimming takes a run of the trimmed characters off each end and leaves the rest in between
(`padded_trimBy`). A text that is put between two such runs comes back if it neither begins nor ends with
a trimmed character itself (`Padded.trimBy_eq_of_ends`).
-/

namespace MovePlan.Text

variable {p : Char → Bool} {s core after : List Char}

/-- Whether a text is another one with characters of a kind around it. -/
def Padded (p : Char → Bool) (core s : List Char) : Prop :=
  ∃ before after, s = before ++ core ++ after ∧ (∀ c ∈ before, p c = true) ∧
    ∀ c ∈ after, p c = true

theorem Padded.imp {q : Char → Bool} (h : ∀ c, p c = true → q c = true) (hs : Padded p core s) :
    Padded q core s := by
  obtain ⟨before, after, hs, hb, ha⟩ := hs
  exact ⟨before, after, hs, fun c hc => h c (hb c hc), fun c hc => h c (ha c hc)⟩

theorem dropWhileEnd_eq (p : Char → Bool) (s : List Char) :
    dropWhileEnd p s = s.rdropWhile p := rfl

/-- What trimming takes off stands around what it leaves. -/
theorem padded_trimBy (p : Char → Bool) (s : List Char) : Padded p (trimBy p s) s := by
  refine ⟨s.takeWhile p, (s.dropWhile p).rtakeWhile p, ?_, fun _ => List.mem_takeWhile_imp,
    fun _ => List.mem_rtakeWhile_imp⟩
  rw [trimBy, dropWhileEnd_eq, List.append_assoc, List.rdropWhile_append_rtakeWhile,
    List.takeWhile_append_dropWhile]

theorem dropWhileEnd_append_of_forall (h : ∀ c ∈ after, p c = true) :
    dropWhileEnd p (s ++ after) = dropWhileEnd p s := by
  rw [dropWhileEnd, List.reverse_append,
    List.dropWhile_append_of_pos fun c hc => h c (List.mem_reverse.mp hc), dropWhileEnd]

/-- A text that neither begins nor ends with a trimmed character comes back from between any of them. -/
theorem Padded.trimBy_eq_of_ends (h : Padded p core s) (hfirst : ∀ c ∈ core.head?, p c = false)
    (hlast : ∀ c ∈ core.getLast?, p c = false) : trimBy p s = core := by
  obtain ⟨before, after, rfl, hb, ha⟩ := h
  rw [trimBy, List.append_assoc, List.dropWhile_append_of_pos hb]
  cases core with
  | nil =>
    rw [List.nil_append, List.dropWhile_eq_nil_iff.mpr ha]
    rfl
  | cons c rest =>
    rw [List.cons_append, List.dropWhile_cons_of_neg (by simp [hfirst c rfl]),
      ← List.cons_append, dropWhileEnd_append_of_forall ha, dropWhileEnd_eq,
      List.rdropWhile_eq_self_iff]
    intro hne
    rw [hlast _ (List.getLast?_eq_some_getLast hne)]
    exact Bool.false_ne_true

/-- A text without trimmed characters comes back from between any of them. -/
theorem Padded.trimBy_eq (h : Padded p core s) (hc : ∀ c ∈ core, p c = false) :
    trimBy p s = core :=
  h.trimBy_eq_of_ends (fun c hfirst => hc c (List.mem_of_head? hfirst))
    fun c hlast => hc c (List.mem_of_getLast? hlast)

theorem trimBy_eq_self (h : ∀ c ∈ s, p c = false) : trimBy p s = s :=
  Padded.trimBy_eq ⟨[], [], by simp, by simp, by simp⟩ h

/-- Trimming keeps what a text begins with, if that holds no trimmed character. -/
theorem trimBy_append (hs : ∀ c ∈ s, p c = false) (hne : s ≠ []) (rest : List Char) :
    trimBy p (s ++ rest) = s ++ dropWhileEnd p rest := by
  obtain ⟨c, s', rfl⟩ := List.exists_cons_of_ne_nil hne
  have hstart : (c :: s' ++ rest).dropWhile p = c :: s' ++ rest := by
    rw [List.cons_append, List.dropWhile_cons_of_neg (by simp [hs c List.mem_cons_self])]
  have hself : dropWhileEnd p (c :: s') = c :: s' := by
    simpa [trimBy, hs c List.mem_cons_self] using trimBy_eq_self hs
  rw [trimBy, hstart, dropWhileEnd, List.reverse_append, List.dropWhile_append]
  split
  · next he =>
    -- nothing of the rest is left
    rw [dropWhileEnd, List.isEmpty_iff.mp he, List.reverse_nil, List.append_nil]
    exact hself
  · rw [List.reverse_append, List.reverse_reverse, dropWhileEnd]

/-! ## Characters of a kind -/

/-- Characters of a kind are told from what follows them, if that begins with none. -/
theorem takeWhile_dropWhile_of_head? {p : Char → Bool} {t tail : List Char}
    (ht : ∀ c ∈ t, p c = true) (htail : ∀ c ∈ tail.head?, p c = false) :
    (t ++ tail).takeWhile p = t ∧ (t ++ tail).dropWhile p = tail := by
  rw [List.takeWhile_append_of_pos ht, List.dropWhile_append_of_pos ht]
  cases tail with
  | nil => simp
  | cons c rest => simp [htail c rfl]

end MovePlan.Text
