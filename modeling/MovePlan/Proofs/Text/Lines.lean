import MovePlan.Text.Lines

/-!
# Lines that are joined and split

Lines without line ends that are written one after the other, each with an end, are split again into
the same lines (`splitLines_flatMap`). What a file's lines give is the same whatever characters end them
(`givenByLines_append`): a carriage return and a line feed may be taken for one end or for two with an
empty line between them, which gives nothing.
-/

namespace MovePlan.Text

variable {part : List Char}

/-- Whether a text has no line end in it. -/
def IsLine (s : List Char) : Prop := ∀ c ∈ s, isLineEnd c = false

instance (s : List Char) : Decidable (IsLine s) := List.decidableBAll _ s

theorem IsLine.not_mem_return (h : IsLine part) : '\r' ∉ part := fun hm =>
  absurd (h '\r' hm) (by decide)

theorem splitLinesAfter_append (h : IsLine part) (line rest : List Char) :
    splitLinesAfter line (part ++ rest) = splitLinesAfter (part.reverse ++ line) rest := by
  induction part generalizing line with
  | nil => rfl
  | cons c part ih =>
    obtain ⟨hc, hpart⟩ := List.forall_mem_cons.mp h
    have hreturn : c ≠ '\r' := by
      rintro rfl
      exact absurd hc (by decide)
    rw [List.cons_append, splitLinesAfter, hc, if_neg Bool.false_ne_true, ih hpart]
    · simp
    · rintro more rfl
      exact absurd rfl hreturn

/-- A line goes up to its end, which is no carriage return. -/
theorem splitLines_append (h : IsLine part) {c : Char} (hc : isLineEnd c = true) (hreturn : c ≠ '\r')
    (rest : List Char) : splitLines (part ++ c :: rest) = part :: splitLines rest := by
  rw [splitLines, splitLinesAfter_append h, splitLinesAfter, if_pos hc]
  · simp [splitLines]
  · rintro more rfl
    exact absurd rfl hreturn

/-- The last line may have no end. -/
theorem splitLines_of_isLine (h : IsLine part) :
    splitLines part = if part.isEmpty then [] else [part] := by
  have hlast := splitLinesAfter_append h [] []
  rw [List.append_nil, List.append_nil] at hlast
  rw [splitLines, hlast, splitLinesAfter]
  simp

/-- **Lines that are written one after the other are split again.** -/
theorem splitLines_flatMap {lines : List (List Char)} (h : ∀ l ∈ lines, IsLine l) :
    splitLines (lines.flatMap (· ++ ['\n'])) = lines := by
  induction lines with
  | nil => rfl
  | cons l rest ih =>
    obtain ⟨hl, hrest⟩ := List.forall_mem_cons.mp h
    rw [List.flatMap_cons, List.append_assoc, List.singleton_append,
      splitLines_append hl (by decide) (by decide), ih hrest]

/-! ## Line ends of files -/

theorem unifyLineEnds_append (h : '\r' ∉ part) (rest : List Char) :
    unifyLineEnds (part ++ rest) = part ++ unifyLineEnds rest := by
  induction part with
  | nil => rfl
  | cons c part ih =>
    have hc : c ≠ '\r' := (List.ne_of_not_mem_cons h).symm
    rw [List.cons_append, unifyLineEnds, if_neg hc, ih (List.not_mem_of_not_mem_cons h),
      List.cons_append]
    rintro more rfl
    exact absurd rfl hc

theorem unifyLineEnds_eq_self (h : '\r' ∉ part) : unifyLineEnds part = part := by
  have hself := unifyLineEnds_append h []
  rwa [List.append_nil, unifyLineEnds, List.append_nil] at hself

section

variable {β : Type} {f : List Char → Option β}

/-- What the lines of a file give. -/
def givenByLines (f : List Char → Option β) (s : List Char) : List β :=
  (splitLines (unifyLineEnds s)).filterMap f

theorem givenByLines_of_isLine (hf : f [] = none) (h : IsLine part) :
    givenByLines f part = (f part).toList := by
  rw [givenByLines, unifyLineEnds_eq_self h.not_mem_return, splitLines_of_isLine h]
  cases part with
  | nil => simp [hf]
  | cons c rest => cases hv : f (c :: rest) <;> simp [hv]

/-- **A line gives what it gives by itself**, and the lines after it do, whatever character ends it. -/
theorem givenByLines_append (hf : f [] = none) (h : IsLine part) {c : Char} (hc : isLineEnd c = true)
    (rest : List Char) :
    givenByLines f (part ++ c :: rest) = (f part).toList ++ givenByLines f rest := by
  have hfirst : ∀ tail, (part :: tail).filterMap f = (f part).toList ++ tail.filterMap f := fun tail => by
    cases hv : f part <;> simp [hv]
  have hsplit : ∀ {e : Char} (tail : List Char), isLineEnd e = true → e ≠ '\r' →
      (splitLines (part ++ e :: tail)).filterMap f = (f part).toList ++ (splitLines tail).filterMap f :=
    fun tail he hreturn => by rw [splitLines_append h he hreturn, hfirst]
  rw [givenByLines, unifyLineEnds_append h.not_mem_return]
  by_cases hreturn : c = '\r'
  · subst hreturn
    cases rest with
    | nil => exact hsplit [] (by decide) (by decide)
    | cons d rest =>
      by_cases hfeed : d = '\n'
      · -- the two make one end, and the empty line between them gives nothing
        subst hfeed
        have hempty : givenByLines f ('\n' :: rest) = givenByLines f rest := by
          simp [givenByLines, unifyLineEnds, splitLines, splitLinesAfter, isLineEnd, hf]
        rw [hempty]
        exact hsplit (unifyLineEnds rest) (by decide) (by decide)
      · rw [unifyLineEnds, if_pos rfl, hsplit _ (by decide) (by decide), givenByLines]
        intro more _ heq
        exact hfeed (List.cons.inj heq).1
  · rw [unifyLineEnds, if_neg hreturn, hsplit _ hc hreturn, givenByLines]
    rintro more rfl
    exact absurd rfl hreturn

end

end MovePlan.Text
