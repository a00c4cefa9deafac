import MovePlan.Flow.Journal
import MovePlan.Proofs.Storage.FileTree

/-!
# Where the journal of a run lies

A name of a directory has no slash, so that it is one component of a path or none. But the letters
of the names `.` and `..` are all admitted, and nothing is made of the empty name: journals of runs
with these names lie in the base directory itself and in the one above it. The journal of every
other run lies in a directory right below the base directory, and what is written into it changes
nothing but its three files (`place_of_openIn`).
-/

namespace MovePlan.Flow

open Storage Text
open Error (bind_eq_ok_iff)
open FileTree (IsName)

/-! ## The names of directories -/

theorem toList_directoryName (run : String) :
    (directoryName run).toList =
      (run.toList.map fun c => if isNameChar c then c else '_').take longestRunName :=
  String.toList_ofList

theorem isNameChar_of_mem_directoryName {run : String} {c : Char}
    (h : c ∈ (directoryName run).toList) : isNameChar c = true := by
  rw [toList_directoryName] at h
  obtain ⟨d, -, rfl⟩ := List.mem_map.1 (List.mem_of_mem_take h)
  split
  · assumption
  · decide

/-- A short name without underscores is the name of the directory of the run so called only. -/
theorem eq_of_directoryName_eq {run s : String} (hshort : s.toList.length < longestRunName)
    (hs : '_' ∉ s.toList) (h : directoryName run = s) : run = s := by
  have hlist := toList_directoryName run
  rw [h] at hlist
  have htake : run.toList.length ≤ longestRunName := by
    rw [hlist, List.length_take, List.length_map] at hshort
    omega
  rw [List.take_of_length_le (by rwa [List.length_map])] at hlist
  have hself : run.toList.map (fun c => if isNameChar c then c else '_') = run.toList := by
    refine (List.map_congr_left fun c hc => ?_).trans run.toList.map_id
    split
    · rfl
    · next hn =>
      refine absurd ?_ hs
      rw [hlist]
      exact List.mem_map.2 ⟨c, hc, if_neg hn⟩
  rw [hself] at hlist
  exact (String.toList_inj.1 hlist).symm

/-- The runs whose directories have no name of their own. -/
def IsDots (run : String) : Prop := run = "" ∨ run = "." ∨ run = ".."

/-- The directory of a run has a name, but for three runs. -/
theorem isName_directoryName {run : String} (h : ¬ IsDots run) : IsName (directoryName run) where
  noSlash hc := absurd (isNameChar_of_mem_directoryName hc) (by decide)
  ne_empty he := h (.inl (eq_of_directoryName_eq (by decide) (by decide) he))
  ne_dot he := h (.inr (.inl (eq_of_directoryName_eq (by decide) (by decide) he)))
  ne_parent he := h (.inr (.inr (eq_of_directoryName_eq (by decide) (by decide) he)))

theorem split_of_noSlash {word s : List Char} (h : '/' ∉ s) :
    Path.splitSlashes.split word s = [word.reverse ++ s] := by
  induction s generalizing word with
  | nil => rw [Path.splitSlashes.split, List.append_nil]
  | cons c rest ih =>
    have hc : c ≠ '/' := fun he => h (he ▸ List.mem_cons_self)
    rw [Path.splitSlashes.split, if_neg hc, ih fun hm => h (List.mem_cons_of_mem c hm)]
    simp

/-- A name is a path of one component. -/
theorem parse_of_isName {c : String} (h : IsName c) : Path.parse c = [c] := by
  have hroot : Path.rootOf c.toList = [] := by
    have hslash := h.noSlash
    unfold Path.rootOf
    split
    · next heq => simp [heq] at hslash
    · next heq => simp [heq] at hslash
    · next heq => simp [heq] at hslash
    · rfl
  have hsplit : Path.splitSlashes c.toList = [c] := by
    rw [Path.splitSlashes, split_of_noSlash h.noSlash]
    simp
  have hkept : (c != "" && c != ".") = true := by simp [h.ne_empty, h.ne_dot]
  rw [Path.parse, hroot, hsplit, List.nil_append, List.filter_cons, if_pos hkept, List.filter_nil]

/-! ## The files of a journal -/

/-- The names of a journal's files. -/
def fileNames : List String := ["run_metadata.json", "events.jsonl", "steps.jsonl"]

theorem isName_of_mem_fileNames {file : String} (h : file ∈ fileNames) : IsName file := by
  simp only [fileNames, List.mem_cons, List.not_mem_nil, or_false] at h
  obtain rfl | rfl | rfl := h <;> exact ⟨by decide, by decide, by decide, by decide⟩

namespace Journal

variable {j : Journal} {t t' : FileTree} {time : Int} {place : Path}

/-- Where a row goes, and that nothing changes if it cannot be written there. -/
theorem appendRow_cases {p : Path} {row : Json} (h : (appendRow p row t).2 = t') :
    t' = t ∨ ∃ place content, t.resolve p = .ok place ∧ t.node? place ≠ some .directory ∧
      t' = t.put place (.file content) := by
  unfold appendRow at h
  split at h
  next made hmade =>
    obtain rfl : made = t' := h
    exact .inr (FileTree.append_eq_ok hmade)
  next => exact .inl h.symm

theorem replaceBlock_cases {p : Path} {d : Json} (h : (replaceBlock p d t).2 = t') :
    t' = t ∨ ∃ place content, t.resolve p = .ok place ∧ t.node? place ≠ some .directory ∧
      t' = t.put place (.file content) := by
  unfold replaceBlock at h
  split at h
  · split at h
    next made hmade =>
      obtain rfl : made = t' := h
      obtain ⟨place, hr, hn, rfl⟩ := FileTree.write_eq_ok hmade
      exact .inr ⟨place, _, hr, hn, rfl⟩
    next => exact .inl h.symm
  · exact .inl h.symm

/-- An entry goes to one of the files, or nowhere. -/
theorem write_cases {e : Entry} (h : (j.write time e t).2 = t') :
    t' = t ∨ ∃ file ∈ fileNames, ∃ place content, t.resolve (j.root ++ [file]) = .ok place ∧
      t.node? place ≠ some .directory ∧ t' = t.put place (.file content) := by
  cases e with
  | description d =>
    exact (replaceBlock_cases h).imp_right fun h => ⟨"run_metadata.json", by decide, h⟩
  | event name fields => exact (appendRow_cases h).imp_right fun h => ⟨"events.jsonl", by decide, h⟩
  | step row => exact (appendRow_cases h).imp_right fun h => ⟨"steps.jsonl", by decide, h⟩

/-- Writing an entry changes only a file of the journal; all directories stay. -/
theorem frame_of_write {e : Entry} (hroot : t.resolve j.root = .ok place)
    (h : (j.write time e t).2 = t') :
    FileTree.KeepsDirectories t t' ∧
      ∀ q, t'.node? q ≠ t.node? q → ∃ file ∈ fileNames, q = place ++ [file] := by
  rcases write_cases h with rfl | ⟨file, hfile, target, content, hr, hn, rfl⟩
  · exact ⟨fun _ hq => hq, fun q hq => absurd rfl hq⟩
  · refine ⟨.put hn _, fun q hq => ⟨file, hfile, ?_⟩⟩
    obtain ⟨d, hd, -, rfl⟩ := (isName_of_mem_fileNames hfile).resolve_append_eq_ok hr
    cases hroot.symm.trans hd
    exact Decidable.byContradiction fun hne => hq (FileTree.node?_put_of_ne hne _)

/-- The first entry is written, and then the others unless that failed. -/
theorem writeEach_cons_cases (j : Journal) (e : Int × Entry) (es : List (Int × Entry)) (t : FileTree) :
    (j.writeEach (e :: es) t).2 = (j.write e.1 e.2 t).2 ∨
      (j.writeEach (e :: es) t).2 = (j.writeEach es (j.write e.1 e.2 t).2).2 := by
  rw [writeEach]
  split
  next made hmade => exact .inr (by rw [hmade])
  next made hmade => exact .inl (by rw [hmade])

theorem frame_of_writeEach {es : List (Int × Entry)} (hroot : t.resolve j.root = .ok place)
    (h : (j.writeEach es t).2 = t') :
    ∀ q, t'.node? q ≠ t.node? q → ∃ file ∈ fileNames, q = place ++ [file] := by
  induction es generalizing t with
  | nil =>
    obtain rfl : t = t' := h
    exact fun q hq => absurd rfl hq
  | cons e es ih =>
    have hwritten : (j.write e.1 e.2 t).2 = (j.write e.1 e.2 t).2 := rfl
    obtain ⟨hkeeps, hframe⟩ := frame_of_write hroot hwritten
    intro q hq
    rcases writeEach_cons_cases j e es t with hcut | hall
    · rw [← h, hcut] at hq
      exact hframe q hq
    · by_cases hsame : t'.node? q = (j.write e.1 e.2 t).2.node? q
      · exact hframe q (hsame ▸ hq)
      · exact ih (FileTree.resolve_of_keepsDirectories hkeeps hroot) (hall.symm.trans h) q hsame

/-! ## The directory of a journal -/

/-- The journal lies in a directory with the name, right below the base directory. Of what was not
there before, opening the journal made nothing but directories, on the way to the base directory
and the one of the journal; writing changes nothing but the three files in that directory. -/
structure LiesBelow (base : Path) (name : String) (t : FileTree) (j : Journal)
    (opened written : FileTree) (place : Path) : Prop where
  isName : IsName name
  length_le : name.length ≤ longestRunName
  root_eq : j.root = base ++ [name]
  base_place : opened.resolve base = .ok place
  root_place : opened.resolve j.root = .ok (place ++ [name])
  isDirectory : opened.node? (place ++ [name]) = some .directory
  opening : ∀ q, opened.node? q ≠ t.node? q →
    t.node? q = none ∧ opened.node? q = some .directory ∧
      (q = place ++ [name] ∨ ∃ p, p <+: base ∧ opened.resolve p = .ok q)
  writing : ∀ q, written.node? q ≠ opened.node? q → ∃ file ∈ fileNames, q = place ++ [name, file]

/-- Where a journal lies, by the name of the run. -/
structure Place (base run : String) (t : FileTree) (j : Journal) (opened written : FileTree) :
    Prop where
  itself : run = "" ∨ run = "." → j.root = Path.parse base
  above : run = ".." → j.root = Path.parse base ++ [Path.parent] ∧
    ∃ place, opened.resolve (Path.parse base) = .ok place ∧
      opened.resolve j.root = .ok (FileTree.above place)
  below : ¬ IsDots run →
    ∃ place, LiesBelow (Path.parse base) (directoryName run) t j opened written place

theorem openIn_eq_ok {base run : String} {opened : FileTree}
    (h : openIn base run t = .ok (j, opened)) :
    j.root = Path.parse base ++ Path.parse (directoryName run) ∧
      FileTree.Made j.root t opened := by
  obtain ⟨made, hmade, h⟩ := bind_eq_ok_iff.1 h
  cases h
  exact ⟨rfl, FileTree.made_of_ensureDirectory hmade⟩

theorem length_directoryName_le (run : String) : (directoryName run).length ≤ longestRunName := by
  rw [← String.length_toList, toList_directoryName]
  exact List.length_take_le _ _

/-- **The directory of a run**: right below the base directory for all runs but three, in whatever
tree it is opened and whatever is written into it. -/
theorem place_of_openIn {base run : String} {opened written : FileTree} {es : List (Int × Entry)}
    (ho : openIn base run t = .ok (j, opened)) (hw : (j.writeEach es opened).2 = written) :
    Place base run t j opened written := by
  obtain ⟨hroot, hdir, hgrows⟩ := openIn_eq_ok ho
  obtain ⟨q, hq, hisDir⟩ := FileTree.isDirectory_iff.1 hdir
  refine ⟨?_, ?_, fun hrun => ?_⟩
  · rintro (rfl | rfl)
    · rw [hroot, show Path.parse (directoryName "") = [] by decide, List.append_nil]
    · rw [hroot, show Path.parse (directoryName ".") = [] by decide, List.append_nil]
  · rintro rfl
    rw [show Path.parse (directoryName "..") = [Path.parent] by decide] at hroot
    rw [hroot] at hq ⊢
    obtain ⟨place, hplace, -, hs⟩ := FileTree.resolve_append_eq_ok (by decide) hq
    cases hs ""
    exact ⟨rfl, place, hplace, hq⟩
  · have hname := isName_directoryName hrun
    rw [parse_of_isName hname] at hroot
    obtain ⟨place, hplace, -, rfl⟩ := hname.resolve_append_eq_ok (hroot ▸ hq)
    refine ⟨place, hname, length_directoryName_le run, hroot, hplace, hq, hisDir, ?_, ?_⟩
    · intro r hr
      obtain hsame | ⟨hnone, hnew, p, hp, hpr⟩ := hgrows r
      · exact absurd hsame hr
      · refine ⟨hnone, hnew, ?_⟩
        rw [hroot, List.prefix_concat_iff] at hp
        obtain rfl | hp := hp
        · rw [← hroot, hq] at hpr
          cases hpr
          exact .inl rfl
        · exact .inr ⟨p, hp, hpr⟩
    · intro r hr
      obtain ⟨file, hfile, rfl⟩ := frame_of_writeEach hq hw r hr
      exact ⟨file, hfile, by rw [List.append_assoc]; rfl⟩

/-- A run whose name is a path, in an empty tree. -/
theorem place_of_openIn_path : ∃ j opened written,
    openIn "base/runs" "../a b" {} = .ok (j, opened) ∧
      j.writeEach [(0, .step (.obj []))] opened = (.ok (), written) ∧
      ¬ IsDots "../a b" ∧ Place "base/runs" "../a b" {} j opened written := by
  have ho : openIn "base/runs" "../a b" {} = .ok (⟨["base", "runs", ".._a_b"]⟩,
      ⟨[(["base"], .directory), (["base", "runs"], .directory),
        (["base", "runs", ".._a_b"], .directory)]⟩) := by rfl
  have hw : writeEach ⟨["base", "runs", ".._a_b"]⟩ [(0, .step (.obj []))]
      ⟨[(["base"], .directory), (["base", "runs"], .directory),
        (["base", "runs", ".._a_b"], .directory)]⟩ =
      (.ok (), ⟨[(["base"], .directory), (["base", "runs"], .directory),
        (["base", "runs", ".._a_b"], .directory),
        (["base", "runs", ".._a_b", "steps.jsonl"], .file (.text "{}\n"))]⟩) := by rfl
  exact ⟨_, _, _, ho, hw, by simp [IsDots], place_of_openIn ho (congrArg Prod.snd hw)⟩

/-- The journal of the run `..` lies beside the base directory, and what is written into it goes to
a file there. -/
theorem openIn_parent_escapes : ∃ j opened written,
    openIn "base/runs" ".." {} = .ok (j, opened) ∧
      j.writeEach [(0, .step (.obj []))] opened = (.ok (), written) ∧
      opened.resolve (Path.parse "base/runs") = .ok ["base", "runs"] ∧
      opened.resolve j.root = .ok ["base"] ∧
      (¬ ∃ name, ["base"] = ["base", "runs"] ++ [name]) ∧
      written.node? ["base", "steps.jsonl"] = some (.file (.text "{}\n")) := by
  have ho : openIn "base/runs" ".." {} = .ok (⟨["base", "runs", ".."]⟩,
      ⟨[(["base"], .directory), (["base", "runs"], .directory)]⟩) := by rfl
  exact ⟨_, _, _, ho, rfl, rfl, rfl, by simp, rfl⟩

end Journal

end MovePlan.Flow
