import MovePlan.Storage.FileTree

/-!
# What changes in a tree of files

A tree changes by `put` alone, at one place. Making directories is told as a relation between the
tree before and the tree after, `Grows`: what was there stays, and what is new is a directory to
which some beginning of the path leads. Paths are followed through directories only, so that a path
which leads somewhere leads there in every tree that has the same directories and more.
-/

namespace MovePlan.Storage.FileTree

open Error (bind_eq_ok_iff)

variable {t t' t'' : FileTree} {p : Path} {place q : Path} {shown shown' : String}

/-! ## Putting a node at a place -/

/-- What is put at a place is found there. -/
theorem lookup_setEntry_self (place : Path) (n : Node) (entries : List (Path × Node)) :
    (setEntry place n entries).lookup place = some n := by
  fun_induction setEntry place n entries with
  | case1 => simp
  | case2 => simp
  | case3 q m rest hne ih =>
    have hne : (place == q) = false := by simpa using fun h : place = q => hne h.symm
    rw [List.lookup_cons, hne]
    exact ih

/-- Other places keep what they hold. -/
theorem lookup_setEntry_of_ne (hq : q ≠ place) (n : Node) (entries : List (Path × Node)) :
    (setEntry place n entries).lookup q = entries.lookup q := by
  have hne : (q == place) = false := by simpa using hq
  fun_induction setEntry place n entries with
  | case1 => rw [List.lookup_cons, hne]
  | case2 m rest => rw [List.lookup_cons, List.lookup_cons, hne]
  | case3 r m rest _ ih => rw [List.lookup_cons, List.lookup_cons, ih]

/-- The given places are directories of every tree. -/
theorem node?_of_isGiven (h : isGiven place = true) (t : FileTree) :
    t.node? place = some .directory := by
  rw [node?, h, if_pos rfl]

theorem isGiven_of_node?_ne (h : t.node? place ≠ some .directory) : isGiven place = false :=
  Bool.eq_false_iff.2 fun hg => h (node?_of_isGiven hg t)

/-- What is put at a place that is not given is there. -/
theorem node?_put_self (h : isGiven place = false) (n : Node) :
    (t.put place n).node? place = some n := by
  simp [node?, h, put, lookup_setEntry_self]

theorem node?_put_of_ne (hq : q ≠ place) (n : Node) : (t.put place n).node? q = t.node? q := by
  simp [node?, put, lookup_setEntry_of_ne hq]

/-! ## Following a path -/

/-- One tree has all the directories of another. -/
def KeepsDirectories (t t' : FileTree) : Prop :=
  ∀ q, t.node? q = some .directory → t'.node? q = some .directory

/-- Only a directory can be lost by putting something in its place. -/
theorem KeepsDirectories.put (h : t.node? place ≠ some .directory) (n : Node) :
    KeepsDirectories t (t.put place n) := by
  intro q hq
  have hne : q ≠ place := by
    rintro rfl
    exact h hq
  rw [node?_put_of_ne hne, hq]

theorem KeepsDirectories.trans (h : KeepsDirectories t t') (h' : KeepsDirectories t' t'') :
    KeepsDirectories t t'' := fun q hq => h' q (h q hq)

/-- How a path is shown matters only for what is told of a failure. -/
theorem step_eq_ok_congr {c : String} (h : step shown place c = .ok q) :
    step shown' place c = .ok q := by
  rw [step] at h ⊢
  split at h
  · next hroot => rwa [if_pos hroot]
  · next hroot =>
    rw [if_neg hroot]
    split at h
    · next hparent => rwa [if_pos hparent]
    · next hparent =>
      rw [if_neg hparent]
      split at h
      · cases h
      · next hlong => rwa [if_neg hlong]

/-- One component further: only from a directory. -/
theorem follow_cons_eq_ok_iff {c : String} {rest : Path} :
    t.follow shown place (c :: rest) = .ok q ↔ t.node? place = some .directory ∧
      ∃ next, step shown place c = .ok next ∧ t.follow shown next rest = .ok q := by
  rw [follow]
  cases t.node? place with
  | none => simp
  | some n =>
    cases n with
    | file content => simp
    | directory => cases hs : step shown place c <;> simp

/-- A path leads to where it leads in every tree with the same directories. -/
theorem follow_of_keepsDirectories (hk : KeepsDirectories t t')
    (h : t.follow shown place p = .ok q) : t'.follow shown' place p = .ok q := by
  induction p generalizing place with
  | nil => exact h
  | cons c rest ih =>
    obtain ⟨hd, next, hs, hf⟩ := follow_cons_eq_ok_iff.1 h
    exact follow_cons_eq_ok_iff.2 ⟨hk _ hd, next, step_eq_ok_congr hs, ih hf⟩

/-- A path is followed piece by piece. -/
theorem follow_append {p p' : Path} :
    t.follow shown place (p ++ p') = .ok q ↔
      ∃ next, t.follow shown place p = .ok next ∧ t.follow shown next p' = .ok q := by
  induction p generalizing place with
  | nil => simp [follow]
  | cons c rest ih =>
    simp only [List.cons_append, follow_cons_eq_ok_iff, ih]
    constructor
    · rintro ⟨hd, mid, hs, next, hf, hf'⟩
      exact ⟨next, ⟨hd, mid, hs, hf⟩, hf'⟩
    · rintro ⟨next, ⟨hd, mid, hs, hf⟩, hf'⟩
      exact ⟨hd, mid, hs, next, hf, hf'⟩

/-- A path leads to a place if it is short, has no zero character and can be followed. -/
theorem resolve_eq_ok_iff :
    t.resolve p = .ok place ↔ p.hasZero = false ∧ p.text.utf8ByteSize ≤ Path.longest ∧
      t.follow p.text [] p = .ok place := by
  rw [resolve]
  split
  · next hz => simp [hz]
  · next hz =>
    split
    · next hl => simp [Nat.not_le.2 hl]
    · next hl => simp [hz, Nat.not_lt.1 hl]

/-- A tree that keeps the directories keeps the paths through them. -/
theorem resolve_of_keepsDirectories (hk : KeepsDirectories t t') (h : t.resolve p = .ok place) :
    t'.resolve p = .ok place := by
  obtain ⟨hz, hl, hf⟩ := resolve_eq_ok_iff.1 h
  exact resolve_eq_ok_iff.2 ⟨hz, hl, follow_of_keepsDirectories hk hf⟩

theorem isDirectory_iff :
    t.isDirectory p = true ↔
      ∃ place, t.resolve p = .ok place ∧ t.node? place = some .directory := by
  rw [isDirectory]
  cases t.resolve p with
  | error e => simp
  | ok place =>
    cases hn : t.node? place with
    | none => simp [hn]
    | some n => cases n <;> simp [hn]

/-! ## Making directories -/

/-- From one tree to the other only directories were made, each at a place to which a beginning of
the path leads. -/
def Grows (p : Path) (t t' : FileTree) : Prop :=
  ∀ q, t'.node? q = t.node? q ∨
    t.node? q = none ∧ t'.node? q = some .directory ∧ ∃ p', p' <+: p ∧ t'.resolve p' = .ok q

namespace Grows

theorem refl (p : Path) (t : FileTree) : Grows p t t := fun _ => .inl rfl

theorem keepsDirectories (h : Grows p t t') : KeepsDirectories t t' := by
  intro q hq
  obtain hsame | ⟨hnone, -, -⟩ := h q
  · rw [hsame, hq]
  · rw [hq] at hnone
    cases hnone

theorem trans (h : Grows p t t') (h' : Grows p t' t'') : Grows p t t'' := by
  intro q
  obtain hsame' | ⟨hnone', hnew', hp'⟩ := h' q
  · obtain hsame | ⟨hnone, hnew, p', hp, hr⟩ := h q
    · exact .inl (hsame'.trans hsame)
    · exact .inr ⟨hnone, hsame'.trans hnew, p', hp,
        resolve_of_keepsDirectories h'.keepsDirectories hr⟩
  · obtain hsame | ⟨-, hnew, -⟩ := h q
    · exact .inr ⟨hsame ▸ hnone', hnew', hp'⟩
    · rw [hnew] at hnone'
      cases hnone'

theorem of_prefix {p' : Path} (hp : p' <+: p) (h : Grows p' t t') : Grows p t t' :=
  fun q => (h q).imp_right fun ⟨hnone, hnew, r, hr, hres⟩ => ⟨hnone, hnew, r, hr.trans hp, hres⟩

end Grows

/-- The outcome of making directories: the path leads to a directory and nothing was lost. -/
structure Made (p : Path) (t t' : FileTree) : Prop where
  isDirectory : t'.isDirectory p = true
  grows : Grows p t t'

theorem made_of_isDirectory (h : t.isDirectory p = true) : Made p t t := ⟨h, .refl p t⟩

/-- Making a directory puts it at the end of its path. -/
theorem made_of_makeDirectory (h : t.makeDirectory p = .ok t') : Made p t t' := by
  obtain ⟨place, hr, h⟩ := bind_eq_ok_iff.1 h
  cases hn : t.node? place with
  | some n => rw [hn] at h; cases h
  | none =>
    rw [hn] at h
    cases h
    have hne : t.node? place ≠ some .directory := by rw [hn]; exact nofun
    have hself : (t.put place .directory).node? place = some .directory :=
      node?_put_self (isGiven_of_node?_ne hne) _
    have hr' : (t.put place .directory).resolve p = .ok place :=
      resolve_of_keepsDirectories (.put hne _) hr
    refine ⟨isDirectory_iff.2 ⟨place, hr', hself⟩, fun q => ?_⟩
    by_cases hq : q = place
    · subst hq
      exact .inr ⟨hn, hself, p, List.prefix_refl p, hr'⟩
    · exact .inl (node?_put_of_ne hq _)

/-- A directory that is there is as good as one that is made. -/
theorem made_of_ensureOne (h : t.ensureOne p = .ok t') : Made p t t' := by
  rw [ensureOne] at h
  split at h
  · next hm =>
    cases h
    exact made_of_makeDirectory hm
  · split at h
    · next hd =>
      cases h
      exact made_of_isDirectory hd
    · cases h

/-- The directories above are made first. -/
theorem made_of_ensureBackward {r : List String} (h : t.ensureBackward r = .ok t') :
    Made r.reverse t t' := by
  induction r generalizing t t' with
  | nil =>
    cases h
    exact made_of_isDirectory (isDirectory_iff.2 ⟨[], rfl, rfl⟩)
  | cons c above ih =>
    rw [ensureBackward] at h
    split at h
    · next hm =>
      cases h
      exact made_of_makeDirectory hm
    · -- the directories above are made first, then this one
      obtain ⟨mid, habove, hone⟩ := bind_eq_ok_iff.1 h
      have hmade := made_of_ensureOne hone
      have hprefix : above.reverse <+: (c :: above).reverse := by
        rw [List.reverse_cons]
        exact List.prefix_append _ _
      exact ⟨hmade.isDirectory, ((ih habove).grows.of_prefix hprefix).trans hmade.grows⟩
    · split at h
      · next hd =>
        cases h
        exact made_of_isDirectory hd
      · cases h

/-- **Making a directory with those above it** leads to a directory, and nothing else happens to
the tree than that directories are made on the way. -/
theorem made_of_ensureDirectory (h : t.ensureDirectory p = .ok t') : Made p t t' := by
  have hmade := made_of_ensureBackward h
  rwa [List.reverse_reverse] at hmade

/-! ## Names below a directory -/

/-- Whether a text is the name of something in a directory: one component, and neither the
directory itself nor the one above. -/
structure IsName (c : String) : Prop where
  noSlash : '/' ∉ c.toList
  ne_empty : c ≠ ""
  ne_dot : c ≠ "."
  ne_parent : c ≠ Path.parent

/-- A name is never a root. -/
theorem IsName.isRoot {c : String} (h : IsName c) : Path.isRoot c = false := by
  have hne : ∀ s : String, '/' ∈ s.toList → c ≠ s := fun s hs hc => h.noSlash (hc ▸ hs)
  simp [Path.isRoot, hne Path.root (by decide), hne Path.doubleRoot (by decide)]

theorem IsName.step_eq_ok_iff {c : String} (h : IsName c) :
    step shown place c = .ok q ↔ c.utf8ByteSize ≤ longestName ∧ q = place ++ [c] := by
  simp only [step, h.isRoot, if_neg h.ne_parent, Bool.false_eq_true, if_false]
  split
  · next hl => simp [Nat.not_le.2 hl]
  · next hl => simp [Nat.not_lt.1 hl, eq_comm]

/-- A path is no shorter in text than what it begins with. -/
theorem utf8ByteSize_text_le_append (p : Path) {c : String} (hc : c ≠ "") :
    p.text.utf8ByteSize ≤ (Path.text (p ++ [c])).utf8ByteSize := by
  have hpos : 0 < c.utf8ByteSize :=
    Nat.pos_of_ne_zero fun h => hc (String.utf8ByteSize_eq_zero_iff.1 h)
  cases p with
  | nil =>
    have hdot : (Path.text []).utf8ByteSize = 1 := rfl
    rw [hdot, List.nil_append, Path.text]
    simp only [List.isEmpty_nil, if_true, String.intercalate_nil]
    split
    · rw [String.utf8ByteSize_append]
      omega
    · omega
  | cons a rest =>
    have hbelow :
        ("/".intercalate rest).utf8ByteSize ≤ ("/".intercalate (rest ++ [c])).utf8ByteSize := by
      cases rest with
      | nil => simp
      | cons b rest =>
        rw [String.intercalate_append_of_ne_nil (List.cons_ne_nil b rest) (List.cons_ne_nil c []),
          String.utf8ByteSize_append, String.utf8ByteSize_append]
        omega
    rw [List.cons_append, Path.text, Path.text]
    split
    · simp only [String.utf8ByteSize_append]
      omega
    · have hne : (rest ++ [c]).isEmpty = false := by simp
      rw [hne]
      split <;> simp only [Bool.false_eq_true, if_false, String.utf8ByteSize_append] <;> omega

/-- The last component of a path leads on from the directory that the rest leads to. -/
theorem resolve_append_eq_ok {c : String} (hc : c ≠ "") (hr : t.resolve (p ++ [c]) = .ok q) :
    ∃ d, t.resolve p = .ok d ∧ t.node? d = some .directory ∧
      ∀ shown, step shown d c = .ok q := by
  obtain ⟨hz, hl, hf⟩ := resolve_eq_ok_iff.1 hr
  obtain ⟨d, hd, hlast⟩ := follow_append.1 hf
  obtain ⟨hdir, next, hs, hnil⟩ := follow_cons_eq_ok_iff.1 hlast
  cases hnil
  rw [Path.hasZero, List.any_append, Bool.or_eq_false_iff] at hz
  have hl' := Nat.le_trans (utf8ByteSize_text_le_append p hc) hl
  have hd' : t.follow p.text [] p = .ok d := follow_of_keepsDirectories (fun _ => id) hd
  exact ⟨d, resolve_eq_ok_iff.2 ⟨hz.1, hl', hd'⟩, hdir, fun _ => step_eq_ok_congr hs⟩

/-- A path to a name leads through the directory that the name is in. -/
theorem IsName.resolve_append_eq_ok {c : String} (h : IsName c)
    (hr : t.resolve (p ++ [c]) = .ok q) :
    ∃ d, t.resolve p = .ok d ∧ t.node? d = some .directory ∧ q = d ++ [c] := by
  obtain ⟨d, hd, hdir, hs⟩ := FileTree.resolve_append_eq_ok h.ne_empty hr
  exact ⟨d, hd, hdir, (h.step_eq_ok_iff.1 (hs "")).2⟩

/-! ## Writing files -/

/-- A file is written at the place that its path leads to, and nothing changes elsewhere. -/
theorem write_eq_ok {s : String} (h : t.write p s = .ok t') :
    ∃ place, t.resolve p = .ok place ∧ t.node? place ≠ some .directory ∧
      t' = t.put place (.file (.text s)) := by
  obtain ⟨place, hr, h⟩ := bind_eq_ok_iff.1 h
  refine ⟨place, hr, ?_⟩
  split at h
  · cases h
  · next hn =>
    obtain ⟨-, -, h⟩ := bind_eq_ok_iff.1 h
    cases h
    exact ⟨hn, rfl⟩

/-- What is written behind a file changes the place that its path leads to, and none other. -/
theorem append_eq_ok {s : String} (h : t.append p s = .ok t') :
    ∃ place content, t.resolve p = .ok place ∧ t.node? place ≠ some .directory ∧
      t' = t.put place (.file content) := by
  obtain ⟨place, hr, h⟩ := bind_eq_ok_iff.1 h
  split at h
  · next before hn =>
    cases h
    exact ⟨place, _, hr, by rw [hn]; exact nofun, rfl⟩
  · next before hn =>
    cases h
    exact ⟨place, _, hr, by rw [hn]; exact nofun, rfl⟩
  · obtain ⟨place, hr, hn, rfl⟩ := write_eq_ok h
    exact ⟨place, _, hr, hn, rfl⟩

/-! ## Files with names -/

theorem isThere_of_resolve (hr : t.resolve p = .ok place) :
    t.isThere p = .ok (t.node? place).isSome := by
  rw [isThere, hr]

/-- A file that is not there, in a directory, has its place there all the same. -/
theorem IsName.resolve_of_missing {c : String} (h : IsName c) (hzero : Path.hasZero [c] = false)
    (hlength : c.utf8ByteSize ≤ longestName) (hr : t.resolve p = .ok place)
    (hdir : t.node? place = some .directory) (hmissing : t.isThere (p ++ [c]) = .ok false) :
    t.resolve (p ++ [c]) = .ok (place ++ [c]) ∧ t.node? (place ++ [c]) = none := by
  obtain ⟨hz, -, hf⟩ := resolve_eq_ok_iff.1 hr
  have hzeros : Path.hasZero (p ++ [c]) = false := by
    rw [Path.hasZero, List.any_append, Bool.or_eq_false_iff]
    exact ⟨hz, hzero⟩
  have hshort : (Path.text (p ++ [c])).utf8ByteSize ≤ Path.longest := by
    refine Nat.le_of_not_lt fun hlong => ?_
    rw [isThere, resolve, hzeros, if_neg Bool.false_ne_true, if_pos hlong] at hmissing
    cases hmissing
  have hfollow : t.follow (Path.text (p ++ [c])) [] (p ++ [c]) = .ok (place ++ [c]) :=
    follow_append.2 ⟨place, follow_of_keepsDirectories (fun _ => id) hf,
      follow_cons_eq_ok_iff.2 ⟨hdir, _, h.step_eq_ok_iff.2 ⟨hlength, rfl⟩, rfl⟩⟩
  have hplace := resolve_eq_ok_iff.2 ⟨hzeros, hshort, hfollow⟩
  rw [isThere_of_resolve hplace, Except.ok.injEq, Option.isSome_eq_false_iff,
    Option.isNone_iff_eq_none] at hmissing
  exact ⟨hplace, hmissing⟩

/-- A file is written wherever no directory is in its place. -/
theorem IsName.write_eq {c : String} (h : IsName c) (hr : t.resolve (p ++ [c]) = .ok place)
    (hn : t.node? place ≠ some .directory) (s : String) :
    t.write (p ++ [c]) s = .ok (t.put place (.file (.text s))) := by
  obtain ⟨d, -, hdir, hstep⟩ := FileTree.resolve_append_eq_ok h.ne_empty hr
  obtain ⟨-, rfl⟩ := h.step_eq_ok_iff.1 (hstep "")
  have hfollow : t.follow (Path.text (p ++ [c])) (d ++ [c]).dropLast
      ((d ++ [c]).drop ((d ++ [c]).length - 1)) = .ok (d ++ [c]) := by
    rw [List.dropLast_concat, List.length_append, List.length_singleton, Nat.add_sub_cancel,
      List.drop_left]
    exact follow_cons_eq_ok_iff.2 ⟨hdir, _, hstep _, rfl⟩
  refine bind_eq_ok_iff.2 ⟨_, hr, ?_⟩
  split
  · next hdirectory => exact absurd hdirectory hn
  · exact bind_eq_ok_iff.2 ⟨_, hfollow, rfl⟩

/-- The first line that is appended makes the file. -/
theorem IsName.append_eq_of_missing {c : String} (h : IsName c)
    (hr : t.resolve (p ++ [c]) = .ok place) (hn : t.node? place = none) (s : String) :
    t.append (p ++ [c]) s = .ok (t.put place (.file (.text s))) := by
  refine bind_eq_ok_iff.2 ⟨_, hr, ?_⟩
  rw [hn]
  exact h.write_eq hr (by rw [hn]; exact nofun) s

/-- Every other line is put behind the text that is there. -/
theorem append_eq_of_text {before : String} (hr : t.resolve p = .ok place)
    (hn : t.node? place = some (.file (.text before))) (s : String) :
    t.append p s = .ok (t.put place (.file (.text (before ++ s)))) := by
  refine bind_eq_ok_iff.2 ⟨_, hr, ?_⟩
  rw [hn]
  rfl

/-- A file is read with line feeds for all its line ends. -/
theorem read_eq_of_text {s : String} (hr : t.resolve p = .ok place)
    (hn : t.node? place = some (.file (.text s))) :
    t.read p = .ok (String.ofList (Text.unifyLineEnds s.toList)) := by
  refine bind_eq_ok_iff.2 ⟨_, hr, ?_⟩
  rw [hn]
  rfl

end MovePlan.Storage.FileTree
