import MovePlan.Text.Blank

/-!
# Names joined by double colons

A type or function of a module is written as an address, a module name and its own name with `::`
between them; generic arguments follow in angle brackets. Cutting goes from the left and each pair of
colons is used once, so three colons in a row are a separator followed by a colon.
-/

namespace MovePlan.Text

/-- The parts between double colons; at least one. -/
def splitPath : List Char → List (List Char)
  | [] => [[]]
  | ':' :: ':' :: rest => [] :: splitPath rest
  | c :: rest =>
    match splitPath rest with
    | [] => [[c]]
    | part :: parts => (c :: part) :: parts

/-- A part without colons is not split. -/
theorem splitPath_of_not_mem : ∀ {part : List Char}, ':' ∉ part → splitPath part = [part]
  | [], _ => rfl
  | c :: rest, h => by
    have hc : c ≠ ':' := fun he => h (by simp [he])
    have hrest : splitPath rest = [rest] :=
      splitPath_of_not_mem fun hm => h (List.mem_cons_of_mem c hm)
    rw [splitPath.eq_def]
    split
    · next heq => cases heq
    · next heq => cases heq; exact absurd rfl hc
    · next heq => cases heq; rw [hrest]

/-- A part without colons ends at the next double colon. -/
theorem splitPath_append : ∀ {part : List Char} (rest : List Char), ':' ∉ part →
    splitPath (part ++ ':' :: ':' :: rest) = part :: splitPath rest
  | [], rest, _ => by rw [List.nil_append, splitPath]
  | c :: part, rest, h => by
    have hc : c ≠ ':' := fun he => h (by simp [he])
    have hpart : splitPath (part ++ ':' :: ':' :: rest) = part :: splitPath rest :=
      splitPath_append rest fun hm => h (List.mem_cons_of_mem c hm)
    rw [List.cons_append, splitPath.eq_def]
    split
    · next heq => cases heq
    · next heq => exact absurd (List.cons.inj heq).1 hc
    · next heq =>
      obtain ⟨rfl, rfl⟩ := List.cons.inj heq
      rw [hpart]

/-- A path begins with its first part. -/
theorem prefix_of_splitPath {s part : List Char} {parts : List (List Char)}
    (h : splitPath s = part :: parts) : part <+: s := by
  induction s generalizing part parts with
  | nil => cases h; exact List.nil_prefix
  | cons c rest ih =>
    rw [splitPath.eq_def] at h
    split at h
    · next heq => cases heq
    · cases h; exact List.nil_prefix
    · next heq =>
      obtain ⟨rfl, rfl⟩ := List.cons.inj heq
      split at h
      · next hrest => cases h; exact ⟨_, rfl⟩
      · next hrest => cases h; exact List.cons_prefix_cons.mpr ⟨rfl, ih hrest⟩

/-- The texts before and after the first double colon, if there is one. -/
def cutPath? : List Char → Option (List Char × List Char)
  | [] => none
  | ':' :: ':' :: rest => some ([], rest)
  | c :: rest => (cutPath? rest).map fun r => (c :: r.1, r.2)

/-- A path is cut after a part without colons. -/
theorem cutPath?_append {part : List Char} (rest : List Char) (h : ':' ∉ part) :
    cutPath? (part ++ ':' :: ':' :: rest) = some (part, rest) := by
  induction part with
  | nil => rfl
  | cons c part ih =>
    have hc : c ≠ ':' := fun he => h (by simp [he])
    rw [List.cons_append, cutPath?.eq_def]
    split
    · next heq => cases heq
    · next heq => exact absurd (List.cons.inj heq).1 hc
    · next heq =>
      obtain ⟨rfl, rfl⟩ := List.cons.inj heq
      rw [ih fun hm => h (List.mem_cons_of_mem _ hm)]
      rfl

/-- The text before the generic arguments. -/
def beforeGenerics (s : List Char) : List Char := s.takeWhile (· != '<')

/-- The parts with double colons between them. -/
def joinPath : List (List Char) → List Char
  | [] => []
  | [part] => part
  | part :: rest => part ++ ':' :: ':' :: joinPath rest

theorem splitPath_ne_nil (s : List Char) : splitPath s ≠ [] := by
  fun_cases splitPath s <;> simp

theorem joinPath_cons_of_ne {parts : List (List Char)} (h : parts ≠ []) (part : List Char) :
    joinPath (part :: parts) = part ++ ':' :: ':' :: joinPath parts := by
  cases parts with
  | nil => exact absurd rfl h
  | cons next rest => rfl

/-- The parts of a path make it up again. -/
theorem joinPath_splitPath (s : List Char) : joinPath (splitPath s) = s := by
  fun_induction splitPath s with
  | case1 => rfl
  | case2 rest ih => rw [joinPath_cons_of_ne (splitPath_ne_nil rest), ih, List.nil_append]
  | case3 c rest _ hnil => exact absurd hnil (splitPath_ne_nil rest)
  | case4 c rest _ part parts hsplit ih =>
    rw [hsplit] at ih
    cases parts with
    | nil => rw [← ih, joinPath, joinPath]
    | cons next more =>
      have hne : next :: more ≠ [] := List.cons_ne_nil next more
      rw [joinPath_cons_of_ne hne] at ih ⊢
      rw [List.cons_append, ih]

/-- The first of several parts is cut off by the double colon after it. -/
theorem cutPath?_of_splitPath {s part : List Char} {parts : List (List Char)}
    (h : splitPath s = part :: parts) (hne : parts ≠ []) (rest : List Char) :
    cutPath? (part ++ ':' :: ':' :: rest) = some (part, rest) := by
  fun_induction splitPath s generalizing part parts with
  | case1 =>
    cases h
    exact absurd rfl hne
  | case2 =>
    cases h
    rfl
  | case3 c tail _ hnil => exact absurd hnil (splitPath_ne_nil tail)
  | case4 c tail hcons first others hsplit ih =>
    obtain ⟨rfl, rfl⟩ := List.cons.inj h
    have hjoin := joinPath_splitPath tail
    rw [hsplit, joinPath_cons_of_ne hne] at hjoin
    rw [List.cons_append, cutPath?, ih hsplit hne, Option.map_some]
    -- a colon in front of another one would have made the first part empty
    rintro more rfl hmore
    cases first <;> cases hmore <;> exact hcons _ rfl hjoin.symm

/-- Whether nothing follows, or only one line feed; the end of a field that is read by its form. -/
def isFieldEnd (s : List Char) : Bool := s == [] || s == ['\n']

end MovePlan.Text
