import Mathlib.Data.List.Nodup
import Mathlib.Data.List.Perm.Subperm
import MovePlan.Proofs.Storage.FileTree
import MovePlan.Proofs.Text.Numeral
import MovePlan.Storage.Documents

/-!
# Files are written all or nothing

Where a path leads, if it leads anywhere, is told by its components alone (`placeOf`), so the place of
a temporary file is known before it is written. Each stage of writing either comes to its end or
leaves files that can be told from those before: making directories changes no file, the temporary
file is one more, and it is dropped or takes the place of the target. So whatever fails, and whenever,
the target holds the text and no other file is changed, or no file is (`writes_all_or_nothing`).
-/

namespace MovePlan.Storage.FileTree

open Error (bind_eq_ok_iff bind_eq_error_iff)

variable {t t' t'' : FileTree} {p tmp : Path} {place q : Path} {s : String} {n : Nat}

/-! ## The files of a tree -/

/-- What a file holds, where one is. -/
def fileAt? (t : FileTree) (q : Path) : Option Content :=
  match t.node? q with
  | some (.file c) => some c
  | _ => none

theorem fileAt?_eq_some_iff {c : Content} :
    t.fileAt? q = some c ↔ t.node? q = some (.file c) := by
  rw [fileAt?]
  split <;> simp_all

theorem fileAt?_congr (h : t'.node? q = t.node? q) : t'.fileAt? q = t.fileAt? q := by
  rw [fileAt?, fileAt?, h]

theorem fileAt?_of_node?_eq_none (h : t.node? q = none) : t.fileAt? q = none := by
  rw [fileAt?, h]

/-- Two trees have the same files. -/
def SameFiles (t t' : FileTree) : Prop := ∀ q, t'.fileAt? q = t.fileAt? q

/-- Nothing has happened to any file yet. -/
theorem SameFiles.refl (t : FileTree) : SameFiles t t := fun _ => rfl

theorem SameFiles.trans (h : SameFiles t t') (h' : SameFiles t' t'') : SameFiles t t'' :=
  fun q => (h' q).trans (h q)

/-- Where only directories are made, the files are the same. -/
theorem Grows.sameFiles (h : Grows p t t') : SameFiles t t' := by
  intro q
  obtain hsame | ⟨hnone, hnew, -⟩ := h q
  · exact fileAt?_congr hsame
  · rw [fileAt?_of_node?_eq_none hnone, fileAt?, hnew]

/-! ## Where a path leads -/

/-- The place that a component leads to from a place. -/
def placeFrom (place : Path) (c : String) : Path :=
  if Path.isRoot c then [Path.root] else if c = Path.parent then above place else place ++ [c]

/-- The place that a path leads to in every tree in which it leads anywhere. -/
def placeOf (p : Path) : Path := p.foldl placeFrom []

/-- Where a component leads does not depend on what is there. -/
theorem placeFrom_of_step {shown c : String} (h : step shown place c = .ok q) :
    q = placeFrom place c := by
  rw [step] at h
  rw [placeFrom]
  split at h
  · next hroot =>
    rw [if_pos hroot]
    exact (Except.ok.inj h).symm
  · next hroot =>
    rw [if_neg hroot]
    split at h
    · next hparent =>
      rw [if_pos hparent]
      exact (Except.ok.inj h).symm
    · next hparent =>
      rw [if_neg hparent]
      split at h
      · cases h
      · exact (Except.ok.inj h).symm

theorem eq_foldl_of_follow {shown : String} (h : t.follow shown place p = .ok q) :
    q = p.foldl placeFrom place := by
  induction p generalizing place with
  | nil => exact (Except.ok.inj h).symm
  | cons c rest ih =>
    obtain ⟨-, next, hs, hf⟩ := follow_cons_eq_ok_iff.1 h
    rw [List.foldl_cons, ← placeFrom_of_step hs]
    exact ih hf

/-- A path that leads anywhere leads to its place. -/
theorem eq_placeOf_of_resolve (h : t.resolve p = .ok q) : q = placeOf p :=
  eq_foldl_of_follow (resolve_eq_ok_iff.1 h).2.2

theorem placeOf_append (l : Path) (c : String) :
    placeOf (l ++ [c]) = placeFrom (placeOf l) c := by
  rw [placeOf, List.foldl_append]
  rfl

/-- A component that is a name leads below the place. -/
theorem placeFrom_of_name {c : String} (hroot : Path.isRoot c = false) (hparent : c ≠ Path.parent)
    (place : Path) : placeFrom place c = place ++ [c] := by
  rw [placeFrom, hroot, if_neg Bool.false_ne_true, if_neg hparent]

/-- No component but a name leads to the place of that name. -/
theorem placeFrom_ne {c d : String} (hd : d ≠ Path.parent) (hc : Path.isRoot c = false)
    (hne : d ≠ c) (place : Path) : place ++ [d] ≠ placeFrom place c := by
  rw [placeFrom, hc, if_neg Bool.false_ne_true]
  split
  · rw [above]
    split
    · simp
    · split
      · simpa using hd
      · -- the place above is shorter
        intro heq
        have hlength := congrArg List.length heq
        rw [List.length_append, List.length_dropLast, List.length_singleton] at hlength
        omega
  · simpa using hne

/-! ## Errors of files -/

theorem isStorageFault_of_follow {shown : String} {e : Error}
    (h : t.follow shown place p = .error e) : isStorageFault e = true := by
  induction p generalizing place with
  | nil => cases h
  | cons c rest ih =>
    rw [follow] at h
    split at h
    · cases h
      rfl
    · cases h
      rfl
    · split at h
      · exact ih h
      · next hs =>
        cases h
        rw [step] at hs
        split at hs
        · cases hs
        · split at hs
          · cases hs
          · split at hs <;> cases hs
            rfl

/-- Without a zero character, a path fails in the ways of a file system. -/
theorem isStorageFault_of_resolve {e : Error} (hzero : p.hasZero = false)
    (h : t.resolve p = .error e) : isStorageFault e = true := by
  rw [resolve, hzero, if_neg Bool.false_ne_true] at h
  split at h
  · cases h
    rfl
  · exact isStorageFault_of_follow h

/-! ## Taking a node away -/

theorem lookup_filter_ne (place q : Path) (entries : List (Path × Node)) :
    (entries.filter fun e => e.1 != place).lookup q =
      if q = place then none else entries.lookup q := by
  induction entries with
  | nil => simp
  | cons e rest ih =>
    obtain ⟨r, node⟩ := e
    rw [List.filter_cons, List.lookup_cons]
    by_cases hr : r = place
    · subst hr
      rw [if_neg (by simp), ih]
      by_cases hq : q = r
      · rw [if_pos hq, if_pos hq]
      · rw [if_neg hq, if_neg hq, beq_eq_false_iff_ne.2 hq]
    · rw [if_pos (by simpa using hr), List.lookup_cons, ih]
      by_cases hq : q = place
      · subst hq
        rw [if_pos rfl, if_pos rfl, beq_eq_false_iff_ne.2 (Ne.symm hr)]
      · rw [if_neg hq, if_neg hq]

/-- What is dropped is gone. -/
theorem node?_drop_self (h : isGiven place = false) : (t.drop place).node? place = none := by
  rw [node?, h, drop, lookup_filter_ne, if_pos rfl]
  rfl

/-- Dropping a place leaves the others alone. -/
theorem node?_drop_of_ne (hq : q ≠ place) : (t.drop place).node? q = t.node? q := by
  rw [node?, node?, drop, lookup_filter_ne, if_neg hq]

/-! ## Directories above the target -/

/-- The components of a directory that could not be made led to directories only. -/
theorem grows_leftBackward (t : FileTree) (r : List String) :
    Grows r.reverse t (t.leftBackward r) := by
  induction r with
  | nil => exact .refl _ _
  | cons c above ih =>
    have hprefix : above.reverse <+: (c :: above).reverse := by
      rw [List.reverse_cons]
      exact List.prefix_append _ _
    rw [leftBackward]
    split
    · exact .refl _ _
    · split
      · next habove => exact (made_of_ensureBackward habove).grows.of_prefix hprefix
      · exact ih.of_prefix hprefix
    · exact .refl _ _

theorem grows_ensureDirectory_getD (t : FileTree) (p : Path) :
    Grows p t ((t.ensureDirectory p).toOption.getD t) := by
  cases h : t.ensureDirectory p with
  | ok t' => exact (made_of_ensureDirectory h).grows
  | error e => exact .refl _ _

/-- Making the directories above a target changes no file. -/
theorem sameFiles_makeAbove (mishap : Option Mishap) (t : FileTree) (p : Path) :
    SameFiles t (t.makeAbove mishap p).2 := by
  unfold makeAbove
  split
  · exact (grows_ensureDirectory_getD t _).sameFiles
  · cases h : t.ensureDirectory p with
    | ok t' => exact (made_of_ensureDirectory h).grows.sameFiles
    | error e => exact (grows_leftBackward t _).sameFiles

/-! ## The temporary file -/

/-- The temporary path of a path with a name. -/
theorem temporary_eq_ok (h : temporary p n = .ok tmp) :
    ∃ l c, p = l ++ [c] ∧ Path.isRoot c = false ∧ tmp = l ++ [temporaryName c n] := by
  rw [temporary, Path.name?] at h
  split at h
  · cases h
  · next name hname =>
    cases h
    obtain ⟨hlast, hroot⟩ := Option.filter_eq_some_iff.1 hname
    obtain ⟨l, rfl⟩ := List.getLast?_eq_some_iff.1 hlast
    exact ⟨l, name, rfl, by simpa using hroot, by rw [List.dropLast_concat]⟩

/-- What stands between a name and the number of a temporary name. -/
def mark : List Char := ['.', 't', 'm', 'p', '.']

theorem toList_temporaryName (c : String) (n : Nat) :
    (temporaryName c n).toList = c.toList ++ mark ++ Numeric.natText n := by
  have happend : temporaryName c n = c ++ ".tmp." ++ toString n := rfl
  have hmark : ".tmp.".toList = mark := by decide
  rw [happend, String.toList_append, String.toList_append, hmark, Nat.toString_eq_repr,
    Nat.toList_repr, Numeric.natText]

/-- A temporary name has a letter, so it is neither the root nor the way to the parent, and is longer
than the name that it is made of. -/
theorem temporaryName_ne (c : String) (n : Nat) : Path.isRoot (temporaryName c n) = false ∧
    temporaryName c n ≠ Path.parent ∧ temporaryName c n ≠ c := by
  have hmem : 't' ∈ (temporaryName c n).toList := by simp [toList_temporaryName, mark]
  have hne : ∀ d : String, 't' ∉ d.toList → temporaryName c n ≠ d := fun d hd he => hd (he ▸ hmem)
  refine ⟨?_, hne _ (by decide), fun he => ?_⟩
  · rw [Path.isRoot, Bool.or_eq_false_iff, beq_eq_false_iff_ne, beq_eq_false_iff_ne]
    exact ⟨hne _ (by decide), hne _ (by decide)⟩
  · have hlength := congrArg (fun d => d.toList.length) he
    simp only [toList_temporaryName, mark, List.length_append, List.length_cons] at hlength
    omega

/-- A path has the character zero exactly if its temporary path has it. -/
theorem hasZero_temporary (h : temporary p n = .ok tmp) : tmp.hasZero = p.hasZero := by
  obtain ⟨l, c, rfl, -, rfl⟩ := temporary_eq_ok h
  have hmark : mark.any (fun d => d == '\x00') = false := by decide
  have hdigits : (Numeric.natText n).any (fun d => d == '\x00') = false := by
    rw [List.any_eq_false]
    intro d hd
    rw [beq_iff_eq]
    rintro rfl
    exact Text.not_mem_natText (by decide) n hd
  simp [Path.hasZero, toList_temporaryName, hmark, hdigits]

/-- Whether no file is in the place of the temporary one. -/
def IsFree (t : FileTree) (p : Path) (n : Nat) : Prop :=
  ∀ tmp, temporary p n = .ok tmp → t.fileAt? (placeOf tmp) = none

/-- A free name stays free while no file changes. -/
theorem IsFree.of_sameFiles (h : IsFree t p n) (hsame : SameFiles t t') : IsFree t' p n :=
  fun tmp htmp => (hsame _).trans (h tmp htmp)

/-! ## Clearing up -/

/-- A temporary file that is there is dropped. -/
theorem clear_eq_drop {c : Content} (hr : t.resolve tmp = .ok place)
    (hn : t.node? place = some (.file c)) : t.clear tmp = t.drop place := by
  have hthere : t.isThere tmp = .ok true := by
    rw [isThere_of_resolve hr, hn]
    rfl
  have hremove : t.remove tmp = .ok (t.drop place) := by
    rw [remove, hr]
    simp only [bind, Except.bind, hn]
    rfl
  rw [clear, hthere, hremove]
  rfl

/-- Without a temporary file there is nothing to clear away. -/
theorem clear_eq_self (h : t.fileAt? (placeOf tmp) = none) : t.clear tmp = t := by
  unfold clear
  split
  · cases hremove : t.remove tmp with
    | error e => rfl
    | ok t' =>
      -- there is no file that could be removed
      obtain ⟨place, hr, hplace⟩ := bind_eq_ok_iff.1 hremove
      obtain rfl := eq_placeOf_of_resolve hr
      split at hplace
      · cases hplace
      · cases hplace
      · next c hn =>
        rw [fileAt?_eq_some_iff.2 hn] at h
        cases h
  · rfl

/-- A tree with one more file. -/
structure HasTemporary (t t' : FileTree) (tmp : Path) (s : String) : Prop where
  resolve : t'.resolve tmp = .ok (placeOf tmp)
  node : t'.node? (placeOf tmp) = some (.file (.text s))
  others : ∀ q, q ≠ placeOf tmp → t'.node? q = t.node? q
  keeps : KeepsDirectories t t'

/-- Writing under the temporary name leaves one more file. -/
theorem hasTemporary_of_write (h : t.write tmp s = .ok t') : HasTemporary t t' tmp s := by
  obtain ⟨place, hr, hn, rfl⟩ := write_eq_ok h
  obtain rfl := eq_placeOf_of_resolve hr
  exact ⟨resolve_of_keepsDirectories (.put hn _) hr, node?_put_self (isGiven_of_node?_ne hn) _,
    fun q hq => node?_put_of_ne hq _, .put hn _⟩

/-- Without the temporary file the files are those before. -/
theorem HasTemporary.sameFiles_drop (h : HasTemporary t t' tmp s)
    (hfree : t.fileAt? (placeOf tmp) = none) : SameFiles t (t'.drop (placeOf tmp)) := by
  intro q
  by_cases hq : q = placeOf tmp
  · have hgiven : isGiven (placeOf tmp) = false := isGiven_of_node?_ne (by rw [h.node]; exact nofun)
    rw [hq, hfree, fileAt?_of_node?_eq_none (node?_drop_self hgiven)]
  · exact fileAt?_congr ((node?_drop_of_ne hq).trans (h.others q hq))

/-- Clearing it away leaves the files as they were. -/
theorem HasTemporary.sameFiles_clear (h : HasTemporary t t' tmp s)
    (hfree : t.fileAt? (placeOf tmp) = none) : SameFiles t (t'.clear tmp) := by
  rw [clear_eq_drop h.resolve h.node]
  exact h.sameFiles_drop hfree

/-! ## Taking the place of the target -/

theorem keepsDirectories_drop {c : Content} (h : t.node? place = some (.file c)) :
    KeepsDirectories t (t.drop place) := by
  intro q hq
  have hne : q ≠ place := by
    rintro rfl
    rw [h] at hq
    cases hq
  rw [node?_drop_of_ne hne, hq]

/-- What becomes of a file that is moved, once both paths lead somewhere. -/
theorem rename_of_resolve {source : Path} {c : Content} (hr : t.resolve source = .ok place)
    (hn : t.node? place = some (.file c)) (hp : t.resolve p = .ok q) :
    t.rename source p = if p.name? == some Path.parent then .error (.busy p.text) else
      match t.node? q with
      | some .directory => .error (.isDirectory p.text)
      | _ => .ok ((t.drop place).put q (.file c)) := by
  rw [rename, hr, hp]
  simp only [bind, Except.bind, hn]
  cases p.name? == some Path.parent with
  | true => rfl
  | false =>
    cases t.node? q with
    | none => rfl
    | some m => cases m <;> rfl

/-- A file that is moved takes the place of what is at the target, which is no directory. -/
theorem rename_eq_ok {source : Path} {c : Content} (hr : t.resolve source = .ok place)
    (hn : t.node? place = some (.file c)) (h : t.rename source p = .ok t') :
    t.resolve p = .ok (placeOf p) ∧ t.node? (placeOf p) ≠ some .directory ∧
      t' = (t.drop place).put (placeOf p) (.file c) := by
  obtain ⟨_, -, htarget⟩ := bind_eq_ok_iff.1 h
  obtain ⟨q, hp, -⟩ := bind_eq_ok_iff.1 htarget
  obtain rfl := eq_placeOf_of_resolve hp
  rw [rename_of_resolve hr hn hp] at h
  split at h
  · cases h
  · split at h
    · cases h
    · next hd =>
      cases h
      exact ⟨hp, hd, rfl⟩

/-- A rename fails in the ways of a file system too. -/
theorem isStorageFault_of_rename {source : Path} {c : Content} {e : Error}
    (hzero : p.hasZero = false) (hr : t.resolve source = .ok place)
    (hn : t.node? place = some (.file c)) (h : t.rename source p = .error e) :
    isStorageFault e = true := by
  cases hp : t.resolve p with
  | error e' =>
    have hrename : t.rename source p = .error e' := by rw [rename, hr, hp]; rfl
    cases hrename.symm.trans h
    exact isStorageFault_of_resolve hzero hp
  | ok q =>
    rw [rename_of_resolve hr hn hp] at h
    split at h
    · cases h
      rfl
    · split at h
      · cases h
        rfl
      · cases h

/-- The temporary file is in another place than the one that it takes. -/
theorem placeOf_temporary_ne (h : temporary p n = .ok tmp) : placeOf tmp ≠ placeOf p := by
  obtain ⟨l, c, rfl, hroot, rfl⟩ := temporary_eq_ok h
  obtain ⟨hroot', hparent, hname⟩ := temporaryName_ne c n
  rw [placeOf_append, placeOf_append, placeFrom_of_name hroot' hparent]
  exact placeFrom_ne hparent hroot hname _

/-! ## The stages together -/

/-- The target holds the text, and no other file is changed. -/
structure Written (t t' : FileTree) (p : Path) (s : String) : Prop where
  leads : t'.resolve p = .ok (placeOf p)
  target : t'.fileAt? (placeOf p) = some (.text s)
  others : ∀ q, q ≠ placeOf p → t'.fileAt? q = t.fileAt? q

/-- What is told of an outcome and of the tree that it leaves. -/
inductive AllOrNothing (t : FileTree) (p : Path) (s : String) :
    Except Error Unit × FileTree → Prop where
  | all {t' : FileTree} (written : Written t t' p s) : AllOrNothing t p s (.ok (), t')
  | nothing {e : Error} {t' : FileTree} (files : SameFiles t t') : AllOrNothing t p s (.error e, t')

theorem isWritingFault_of_isStorageFault {e : Error} (h : isStorageFault e = true) :
    isWritingFault e = true := by
  cases e with
  | unencodable what => rfl
  | _ => exact h

/-- Whatever changes no file can come before. -/
theorem AllOrNothing.of_sameFiles {r : Except Error Unit × FileTree} (hsame : SameFiles t t')
    (h : AllOrNothing t' p s r) : AllOrNothing t p s r := by
  cases h with
  | all written =>
    exact .all ⟨written.leads, written.target, fun q hq => (written.others q hq).trans (hsame q)⟩
  | nothing files => exact .nothing (hsame.trans files)

/-- No temporary file is left. -/
theorem AllOrNothing.isFree {r : Except Error Unit × FileTree} (h : AllOrNothing t p s r)
    (hfree : IsFree t p n) : IsFree r.2 p n := by
  cases h with
  | all written =>
    intro tmp htmp
    rw [written.others _ (placeOf_temporary_ne htmp), hfree tmp htmp]
  | nothing files => exact hfree.of_sameFiles files

/-- Renaming the temporary file is what writes the text. -/
theorem HasTemporary.written_of_rename (h : HasTemporary t t' tmp s)
    (hfree : t.fileAt? (placeOf tmp) = none) (hne : placeOf tmp ≠ placeOf p)
    (hrename : t'.rename tmp p = .ok t'') : Written t t'' p s := by
  obtain ⟨hp, hd, rfl⟩ := rename_eq_ok h.resolve h.node hrename
  have hd' : (t'.drop (placeOf tmp)).node? (placeOf p) ≠ some .directory := by
    rwa [node?_drop_of_ne hne.symm]
  refine ⟨?_, ?_, fun q hq => ?_⟩
  · exact resolve_of_keepsDirectories ((keepsDirectories_drop h.node).trans (.put hd' _)) hp
  · exact fileAt?_eq_some_iff.2 (node?_put_self (isGiven_of_node?_ne hd) _)
  · rw [fileAt?_congr (node?_put_of_ne hq _), h.sameFiles_drop hfree q]

/-- What is done after a failure. -/
theorem ite_clear_eq_self (e : Error) (h : t.fileAt? (placeOf tmp) = none) :
    (if isWritingFault e then t.clear tmp else t) = t := by
  rw [clear_eq_self h, ite_self]

/-- Writing the temporary file leaves it there, or, once it is cleared up, the files before. -/
theorem writeTemporary_cases (mishap : Option Mishap) (hfree : t.fileAt? (placeOf tmp) = none)
    (s : String) :
    (∃ t', t.writeTemporary mishap tmp s = (.ok (), t') ∧ HasTemporary t t' tmp s) ∨
      ∃ e t', t.writeTemporary mishap tmp s = (.error e, t') ∧
        SameFiles t (if isWritingFault e then t'.clear tmp else t') := by
  unfold writeTemporary
  split
  · next e _ =>
    refine .inr ⟨e, t, rfl, ?_⟩
    rw [ite_clear_eq_self e hfree]
    exact .refl t
  · next part e he =>
    refine .inr ⟨e, _, rfl, ?_⟩
    rw [if_pos he]
    cases hw : t.write tmp part with
    | error _ => exact (clear_eq_self hfree).symm ▸ .refl t
    | ok t' => exact (hasTemporary_of_write hw).sameFiles_clear hfree
  · cases hw : t.write tmp s with
    | error e =>
      refine .inr ⟨e, t, rfl, ?_⟩
      rw [ite_clear_eq_self e hfree]
      exact .refl t
    | ok t' => exact .inl ⟨t', rfl, hasTemporary_of_write hw⟩

/-- The temporary file takes the place of the target, or it stays and the failure is one after which
it is cleared up. -/
theorem HasTemporary.replace_cases (h : HasTemporary t t' tmp s) (mishap : Option Mishap)
    (hfree : t.fileAt? (placeOf tmp) = none) (htmp : temporary p n = .ok tmp) :
    (∃ t'', t'.replace mishap tmp p = (.ok (), t'') ∧ Written t t'' p s) ∨
      ∃ e, t'.replace mishap tmp p = (.error e, t') ∧ isWritingFault e = true := by
  unfold replace
  split
  · next e he => exact .inr ⟨e, rfl, he⟩
  · cases hrename : t'.rename tmp p with
    | ok t'' =>
      exact .inl ⟨t'', rfl, h.written_of_rename hfree (placeOf_temporary_ne htmp) hrename⟩
    | error e =>
      have hzero : p.hasZero = false :=
        (hasZero_temporary htmp).symm.trans (resolve_eq_ok_iff.1 h.resolve).1
      exact .inr ⟨e, rfl, isWritingFault_of_isStorageFault
        (isStorageFault_of_rename hzero h.resolve h.node hrename)⟩

/-- Writing by way of the temporary file and clearing up after a failure. -/
theorem writeThrough_cases (mishap : Option Mishap) (hfree : t.fileAt? (placeOf tmp) = none)
    (htmp : temporary p n = .ok tmp) (s : String) :
    (∃ t', t.writeThrough mishap tmp p s = (.ok (), t') ∧ Written t t' p s) ∨
      ∃ e t', t.writeThrough mishap tmp p s = (.error e, t') ∧
        SameFiles t (if isWritingFault e then t'.clear tmp else t') := by
  obtain ⟨t', hw, h⟩ | ⟨e, t', hw, h⟩ := writeTemporary_cases mishap hfree s
  · rw [writeThrough, hw]
    obtain ⟨t'', hr, hwritten⟩ | ⟨e, hr, hfault⟩ := h.replace_cases mishap hfree htmp
    · exact .inl ⟨t'', hr, hwritten⟩
    · refine .inr ⟨e, t', hr, ?_⟩
      rw [if_pos hfault]
      exact h.sameFiles_clear hfree
  · rw [writeThrough, hw]
    exact .inr ⟨e, t', rfl, h⟩

/-- Each stage either gives up with the files as they were or hands over to the next one. -/
theorem allOrNothing_of_isFree (mishap : Option Mishap) (h : IsFree t p n) (s : String) :
    AllOrNothing t p s (t.writeWholeAs mishap n p s) := by
  have habove := sameFiles_makeAbove mishap t p.dropLast
  unfold writeWholeAs
  rcases hmade : t.makeAbove mishap p.dropLast with ⟨_ | ⟨⟨⟩⟩, t'⟩ <;> rw [hmade] at habove
  · exact .nothing habove
  · refine AllOrNothing.of_sameFiles habove ?_
    cases htmp : temporary p n with
    | error e => exact .nothing (.refl t')
    | ok tmp =>
      have hfree := h.of_sameFiles habove tmp htmp
      obtain ⟨t'', hw, hwritten⟩ | ⟨e, t'', hw, hsame⟩ := writeThrough_cases mishap hfree htmp s
      · simp only [hw]
        exact .all hwritten
      · simp only [hw]
        exact .nothing hsame

/-- Whether the directories above a path can be made, and the path and its temporary one can be
written then. -/
structure Allows (t : FileTree) (p : Path) (n : Nat) (s : String) : Prop where
  notParent : p.name? ≠ some Path.parent
  writes : ∃ tmp made t₁ t₂, temporary p n = .ok tmp ∧ t.ensureDirectory p.dropLast = .ok made ∧
    made.write tmp s = .ok t₁ ∧ made.write p s = .ok t₂

/-- Where nothing is in the way and nothing happens, the file is written. -/
theorem Allows.writeWholeAs_eq_ok (h : Allows t p n s) :
    ∃ t', t.writeWholeAs none n p s = (.ok (), t') := by
  obtain ⟨hparent, tmp, made, t₁, t₂, htmp, hmade, hfirst, hlast⟩ := h
  have htemporary := hasTemporary_of_write hfirst
  obtain ⟨place, hp, hn, -⟩ := write_eq_ok hlast
  obtain rfl := eq_placeOf_of_resolve hp
  have hp' : t₁.resolve p = .ok (placeOf p) := resolve_of_keepsDirectories htemporary.keeps hp
  have hn' : t₁.node? (placeOf p) ≠ some .directory := by
    rwa [htemporary.others _ (placeOf_temporary_ne htmp).symm]
  have hrename : ∃ t', t₁.rename tmp p = .ok t' := by
    rw [rename_of_resolve htemporary.resolve htemporary.node hp',
      if_neg (by simpa using hparent)]
    split
    · next hd => exact absurd hd hn'
    · exact ⟨_, rfl⟩
  obtain ⟨t', hrename⟩ := hrename
  refine ⟨t', ?_⟩
  simp only [writeWholeAs, makeAbove, hmade, outcome, htmp, writeThrough, writeTemporary, hfirst,
    replace, hrename]

/-- **A file is written all or nothing**, and no temporary file is left, whatever fails and whenever:
either the path leads to the text and no other file is changed, or no file is. No file may be in the
place of the temporary one before. Where nothing is in the way and nothing happens it is written. -/
theorem writes_all_or_nothing (mishap : Option Mishap) (n : Nat) (t : FileTree) (p : Path) (s : String)
    (h : IsFree t p n) :
    AllOrNothing t p s (t.writeWholeAs mishap n p s) ∧
      IsFree (t.writeWholeAs mishap n p s).2 p n ∧
      (mishap = none → Allows t p n s → (t.writeWholeAs mishap n p s).1 = .ok ()) := by
  have hwhole := allOrNothing_of_isFree mishap h s
  refine ⟨hwhole, hwhole.isFree h, ?_⟩
  rintro rfl hallows
  obtain ⟨t', hwritten⟩ := hallows.writeWholeAs_eq_ok
  rw [hwritten]

/-- A file that is there stays as it is when the disk is full before the new one can take its place;
and a file is written in a directory that is missing. -/
theorem writes_all_or_nothing_run :
    let t : FileTree := ⟨[(["run"], .directory), (["run", "plan.json"], .file (.text "old"))]⟩
    let full : Mishap := ⟨.renaming, .refused "No space left on device", rfl⟩
    let there : Path := ["run", "plan.json"]
    let missing : Path := ["run", "out", "plan.json"]
    (IsFree t there 7 ∧ t.writeWholeAs full 7 there "new" = (.error full.error, t) ∧
      AllOrNothing t there "new" (t.writeWholeAs full 7 there "new")) ∧
    IsFree t missing 7 ∧ Allows t missing 7 "new" ∧
      (t.writeWholeAs none 7 missing "new").1 = .ok () := by
  intro t full there missing
  have hthere : IsFree t there 7 := by
    intro tmp h
    cases h
    rfl
  have hmissing : IsFree t missing 7 := by
    intro tmp h
    cases h
    rfl
  have hallows : Allows t missing 7 "new" := ⟨by decide, _, _, _, _, rfl, rfl, rfl, rfl⟩
  exact ⟨⟨hthere, rfl, (writes_all_or_nothing full 7 t there "new" hthere).1⟩, hmissing, hallows,
    (writes_all_or_nothing none 7 t missing "new" hmissing).2.2 rfl hallows⟩

/-! ## A name that nothing has -/

/-- The names that are tried are all different. -/
theorem temporaryName_injective (c : String) : Function.Injective (temporaryName c) := by
  intro m n h
  have hlist := congrArg String.toList h
  rw [toList_temporaryName, toList_temporaryName] at hlist
  exact Text.natText_injective (List.append_cancel_left hlist)

/-- There are more numbers to choose from than names in the tree. -/
theorem exists_name_not_taken (t : FileTree) (c : String) :
    ∃ n ∈ List.range (t.entries.length + 1), t.isNameTaken (temporaryName c n) = false := by
  by_contra htaken
  push Not at htaken
  have hsubset : (List.range (t.entries.length + 1)).map (fun n => some (temporaryName c n)) ⊆
      t.entries.map fun e => e.1.getLast? := by
    intro name hname
    obtain ⟨n, hn, rfl⟩ := List.mem_map.1 hname
    have htrue := htaken n hn
    rw [Bool.ne_false_iff, isNameTaken, List.any_eq_true] at htrue
    obtain ⟨e, he, heq⟩ := htrue
    exact List.mem_map.2 ⟨e, he, beq_iff_eq.1 heq⟩
  have hnodup : ((List.range (t.entries.length + 1)).map
      fun n => some (temporaryName c n)).Nodup :=
    List.Nodup.map (fun _ _ h => temporaryName_injective c (Option.some.inj h)) List.nodup_range
  have hlength := (List.subperm_of_subset hnodup hsubset).length_le
  rw [List.length_map, List.length_map, List.length_range] at hlength
  omega

theorem fileAt?_of_not_isNameTaken {c : String} (h : t.isNameTaken c = false) (place : Path) :
    t.fileAt? (place ++ [c]) = none := by
  rw [fileAt?, node?]
  split
  · next content hn =>
    split at hn
    · cases hn
    · -- an entry for the place would have the name
      obtain ⟨l₁, l₂, hentries, -⟩ := List.lookup_eq_some_iff.1 hn
      rw [isNameTaken, hentries] at h
      simp at h
  · rfl

theorem isNameTaken_freeNumber (t : FileTree) {l : Path} {c : String}
    (hroot : Path.isRoot c = false) :
    t.isNameTaken (temporaryName c (t.freeNumber (l ++ [c]))) = false := by
  obtain ⟨m, hm, hfree⟩ := exists_name_not_taken t c
  have hname : (Path.name? (l ++ [c])).getD "" = c := by
    rw [Path.name?, List.getLast?_concat, Option.filter_some, hroot]
    rfl
  rw [freeNumber, hname]
  cases hfind : (List.range (t.entries.length + 1)).find?
      fun n => !t.isNameTaken (temporaryName c n) with
  | none =>
    have htaken := List.find?_eq_none.1 hfind m hm
    rw [hfree] at htaken
    exact absurd rfl htaken
  | some n => simpa using List.find?_some hfind

theorem isFree_freeNumber (t : FileTree) (p : Path) : IsFree t p (t.freeNumber p) := by
  intro tmp h
  obtain ⟨l, c, rfl, hroot, rfl⟩ := temporary_eq_ok h
  obtain ⟨hroot', hparent, -⟩ := temporaryName_ne c (t.freeNumber (l ++ [c]))
  rw [placeOf_append, placeFrom_of_name hroot' hparent]
  exact fileAt?_of_not_isNameTaken (isNameTaken_freeNumber t hroot) _

/-- A document is written all or nothing, and nothing is done where it has no text. -/
theorem writeJson_allOrNothing (t : FileTree) (path : String) (j : Json) :
    (∃ text, documentText j = .ok text ∧ AllOrNothing t (Path.parse path) text (t.writeJson path j)) ∨
      ∃ e, documentText j = .error e ∧ t.writeJson path j = (.error e, t) := by
  rw [writeJson]
  cases documentText j with
  | ok text => exact Or.inl ⟨text, rfl, allOrNothing_of_isFree none (isFree_freeNumber t _) _⟩
  | error e => exact Or.inr ⟨e, rfl, rfl⟩

end MovePlan.Storage.FileTree
