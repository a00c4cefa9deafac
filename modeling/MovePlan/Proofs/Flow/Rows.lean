import MovePlan.Proofs.Flow.Events
import MovePlan.Proofs.Flow.Journal
import MovePlan.Proofs.Json.Line

/-!
# The files of a journal

A journal that was just opened has its directory and none of its files. What is written into it goes
to three files that do not get in each other's way: each event is one more row of the one, each step
one more row of the other. Rows are lines, whatever is in them, so that a file has a line for each
row, in the order in which they were written, and no other line (`Filled.holdsRows`).

A row that cannot be written leaves the lines as they are, but its file is there then, if only empty
(`Filled.write_unwritable_step`).
-/

namespace MovePlan.Flow

open Storage Text Numeric
open FileTree (IsName)

/-! ## Files of rows -/

/-- Whether a line is read back as a row. -/
def Says (line : List Char) (row : Json) : Prop :=
  ∃ v, Json.read line = .ok v ∧ Json.SameValue row v

/-- Whether a file has a line for each row, in order, that is read back as the row, and nothing
else. -/
def HoldsLines (t : FileTree) (p : Path) (rows : List Json) : Prop :=
  ∃ text, t.read p = .ok text ∧
    text.toList = rows.flatMap (fun row => row.line.toList ++ ['\n']) ∧
    List.Forall₂ Says (splitLines text.toList) rows

/-- Whether a file was made for rows and has a line for each. Without rows there is no file. -/
structure HoldsRows (t : FileTree) (p : Path) (rows : List Json) : Prop where
  missing : rows = [] → t.isThere p = .ok false
  lines : rows ≠ [] → HoldsLines t p rows

/-- A file with rows that were written one after the other. -/
def rowsFile (rows : List Json) : Node := .file (.text (String.join (rows.map rowText)))

/-- What stands where rows were written: nothing without rows. -/
def rowsNode? (rows : List Json) : Option Node := if rows = [] then none else some (rowsFile rows)

variable {t : FileTree} {p place : Path} {rows : List Json}

theorem toList_join_rowText (rows : List Json) :
    (String.join (rows.map rowText)).toList =
      rows.flatMap fun row => row.line.toList ++ ['\n'] := by
  rw [String.toList_join, List.flatMap_map]
  refine List.flatMap_congr fun row _ => ?_
  rw [rowText, String.toList_append]
  rfl

theorem not_mem_rows (h : ∀ row ∈ rows, row.IsReadable) :
    '\r' ∉ rows.flatMap fun row => row.line.toList ++ ['\n'] := by
  intro hc
  obtain ⟨row, hrow, hc⟩ := List.mem_flatMap.1 hc
  obtain hc | hc := List.mem_append.1 hc
  · exact (Json.isLine_line (h row hrow).wellFormed).not_mem_return hc
  · exact absurd (List.mem_singleton.1 hc) (by decide)

/-- Rows that can be read back are what their file holds. -/
theorem holdsLines_of_node? (hr : t.resolve p = .ok place) (hn : t.node? place = some (rowsFile rows))
    (h : ∀ row ∈ rows, row.IsReadable) : HoldsLines t p rows := by
  refine ⟨_, FileTree.read_eq_of_text hr hn, ?_⟩
  rw [String.toList_ofList, toList_join_rowText, unifyLineEnds_eq_self (not_mem_rows h)]
  refine ⟨rfl, ?_⟩
  rw [Json.splitLines_rows fun row hrow => (h row hrow).wellFormed, List.forall₂_map_left_iff,
    List.forall₂_same]
  exact fun row hrow => Json.read_line (h row hrow)

theorem holdsRows_of_node? (hr : t.resolve p = .ok place) (hn : t.node? place = rowsNode? rows)
    (h : ∀ row ∈ rows, row.IsReadable) : HoldsRows t p rows where
  missing he := by
    rw [FileTree.isThere_of_resolve hr, hn, rowsNode?, if_pos he]
    rfl
  lines hne := by
    rw [rowsNode?, if_neg hne] at hn
    exact holdsLines_of_node? hr hn h

/-- More text at the end of rows. -/
theorem append_to_rows {c : String} (hc : IsName c) (hr : t.resolve (p ++ [c]) = .ok place)
    (hn : t.node? place = rowsNode? rows) (s : String) :
    t.append (p ++ [c]) s =
        .ok (t.put place (.file (.text (String.join (rows.map rowText) ++ s)))) ∧
      t.node? place ≠ some .directory := by
  by_cases hempty : rows = []
  · subst hempty
    have hnone : t.node? place = none := hn
    refine ⟨?_, by rw [hnone]; exact nofun⟩
    rw [hc.append_eq_of_missing hr hnone]
    simp [String.join]
  · rw [rowsNode?, if_neg hempty, rowsFile] at hn
    exact ⟨FileTree.append_eq_of_text hr hn s, by rw [hn]; exact nofun⟩

/-- One more row that can be written. -/
theorem appendRow_of_isWritable {c : String} (hc : IsName c) (hr : t.resolve (p ++ [c]) = .ok place)
    (hn : t.node? place = rowsNode? rows) {row : Json} (hrow : row.isWritable = true) :
    Journal.appendRow (p ++ [c]) row t = (.ok (), t.put place (rowsFile (rows ++ [row]))) ∧
      t.node? place ≠ some .directory := by
  obtain ⟨happend, hdir⟩ := append_to_rows hc hr hn (rowText row)
  have htext : String.join (rows.map rowText) ++ rowText row =
      String.join ((rows ++ [row]).map rowText) := by
    simp [String.join]
  rw [htext] at happend
  rw [Journal.appendRow, if_pos hrow, happend]
  exact ⟨by simp [hrow, rowsFile], hdir⟩

/-- Of a row that cannot be written only the file is opened. -/
theorem appendRow_of_not_isWritable {c : String} (hc : IsName c)
    (hr : t.resolve (p ++ [c]) = .ok place) (hn : t.node? place = rowsNode? rows) {row : Json}
    (hrow : row.isWritable = false) :
    Journal.appendRow (p ++ [c]) row t = (.error .tooManyDigits, t.put place (rowsFile rows)) ∧
      t.node? place ≠ some .directory := by
  obtain ⟨happend, hdir⟩ := append_to_rows hc hr hn ""
  rw [String.append_empty] at happend
  rw [Journal.appendRow, hrow, if_neg Bool.false_ne_true, happend]
  exact ⟨by simp [rowsFile], hdir⟩

/-! ## Entries one after the other -/

namespace Journal

/-- The rows of the events among entries. -/
def eventRows (es : List (Int × Entry)) : List Json :=
  es.filterMap fun e => e.2.event?.map fun event => eventRow e.1 event.1 event.2

/-- The rows of the steps among entries. -/
def stepRows (es : List (Int × Entry)) : List Json := (es.map Prod.snd).filterMap Entry.step?

theorem eventRows_concat (es : List (Int × Entry)) (time : Int) (e : Entry) :
    eventRows (es ++ [(time, e)]) =
      eventRows es ++ (e.event?.map fun event => eventRow time event.1 event.2).toList := by
  cases he : e.event? <;> simp [eventRows, he]

theorem stepRows_concat (es : List (Int × Entry)) (time : Int) (e : Entry) :
    stepRows (es ++ [(time, e)]) = stepRows es ++ e.step?.toList := by
  cases he : e.step? <;> simp [stepRows, he]

/-- Each event has a row, at some time. -/
theorem forall₂_eventRows {es : List (Int × Entry)} (h : ∀ e ∈ es, hasText e.1 = true) :
    List.Forall₂ (fun event row => ∃ time, hasText time = true ∧ row = eventRow time event.1 event.2)
      ((es.map Prod.snd).filterMap Entry.event?) (eventRows es) := by
  induction es with
  | nil => exact .nil
  | cons e es ih =>
    obtain ⟨time, e⟩ := e
    obtain ⟨ht, hes⟩ := List.forall_mem_cons.1 h
    cases e with
    | event name fields => exact .cons ⟨time, ht, rfl⟩ (ih hes)
    | _ => exact ih hes

/-- What is in the directory of a journal after entries were written into it. -/
structure Filled (j : Journal) (d : Path) (es : List (Int × Entry)) (t : FileTree) : Prop where
  files : ∀ file ∈ fileNames, t.resolve (j.root ++ [file]) = .ok (d ++ [file])
  description : t.node? (d ++ ["run_metadata.json"]) ≠ some .directory
  events : t.node? (d ++ ["events.jsonl"]) = rowsNode? (eventRows es)
  steps : t.node? (d ++ ["steps.jsonl"]) = rowsNode? (stepRows es)

variable {j : Journal} {d : Path} {es : List (Int × Entry)}

theorem files_put {n : Node}
    (h : ∀ file ∈ fileNames, t.resolve (j.root ++ [file]) = .ok (d ++ [file]))
    (hn : t.node? place ≠ some .directory) :
    ∀ file ∈ fileNames, (t.put place n).resolve (j.root ++ [file]) = .ok (d ++ [file]) :=
  fun file hfile => FileTree.resolve_of_keepsDirectories (.put hn n) (h file hfile)

theorem node?_put_beside {a b : String} (h : a ≠ b) (n : Node) :
    (t.put (d ++ [b]) n).node? (d ++ [a]) = t.node? (d ++ [a]) :=
  FileTree.node?_put_of_ne (fun he => h (List.append_singleton_inj.1 he).2) n

theorem node?_put_file {n : Node} (hn : t.node? place ≠ some .directory) :
    (t.put place n).node? place = some n :=
  FileTree.node?_put_self (FileTree.isGiven_of_node?_ne hn) n

/-- One more entry that can be written is written, and the files have it. -/
theorem Filled.write (h : Filled j d es t) {time : Int} {e : Entry}
    (he : (e.toJson time).isWritable = true) :
    ∃ t', j.write time e t = (.ok (), t') ∧ Filled j d (es ++ [(time, e)]) t' := by
  have hname : ∀ file ∈ fileNames, IsName file := fun _ => isName_of_mem_fileNames
  cases e with
  | description v =>
    have hfile : "run_metadata.json" ∈ fileNames := by decide
    have hwrite := (hname _ hfile).write_eq (h.files _ hfile) h.description (v.block ++ "\n")
    have hv : v.isWritable = true := he
    have hwritten : j.write time (.description v) t =
        (.ok (), t.put (d ++ ["run_metadata.json"]) (.file (.text (v.block ++ "\n")))) := by
      rw [Journal.write, replaceBlock, if_pos hv, descriptionFile, hwrite]
    refine ⟨_, hwritten, files_put h.files h.description, ?_, ?_, ?_⟩
    · rw [node?_put_file h.description]
      exact nofun
    · rw [node?_put_beside (by decide), h.events]
      simp [eventRows_concat, Entry.event?]
    · rw [node?_put_beside (by decide), h.steps]
      simp [stepRows_concat, Entry.step?]
  | event name fields =>
    have hfile : "events.jsonl" ∈ fileNames := by decide
    obtain ⟨happend, hn⟩ := appendRow_of_isWritable (hname _ hfile) (h.files _ hfile) h.events he
    refine ⟨_, happend, files_put h.files hn, ?_, ?_, ?_⟩
    · rw [node?_put_beside (by decide)]
      exact h.description
    · rw [node?_put_file hn]
      simp [eventRows_concat, Entry.event?, rowsNode?, Entry.toJson]
    · rw [node?_put_beside (by decide), h.steps]
      simp [stepRows_concat, Entry.step?]
  | step row =>
    have hfile : "steps.jsonl" ∈ fileNames := by decide
    obtain ⟨happend, hn⟩ := appendRow_of_isWritable (hname _ hfile) (h.files _ hfile) h.steps he
    refine ⟨_, happend, files_put h.files hn, ?_, ?_, ?_⟩
    · rw [node?_put_beside (by decide)]
      exact h.description
    · rw [node?_put_beside (by decide), h.events]
      simp [eventRows_concat, Entry.event?]
    · rw [node?_put_file hn]
      simp [stepRows_concat, Entry.step?, rowsNode?, Entry.toJson]

/-- Entries that can be written are written one after the other. -/
theorem Filled.writeEach {before : List (Int × Entry)} (h : Filled j d before t)
    {es : List (Int × Entry)} (hes : ∀ e ∈ es, (e.2.toJson e.1).isWritable = true) :
    ∃ t', j.writeEach es t = (.ok (), t') ∧ Filled j d (before ++ es) t' := by
  induction es generalizing before t with
  | nil => exact ⟨t, rfl, by rwa [List.append_nil]⟩
  | cons e es ih =>
    obtain ⟨he, hes⟩ := List.forall_mem_cons.1 hes
    obtain ⟨mid, hmid, hfilled⟩ := h.write he
    obtain ⟨t', ht', hall⟩ := ih hfilled hes
    refine ⟨t', ?_, by rwa [List.append_assoc] at hall⟩
    rw [Journal.writeEach, hmid]
    exact ht'

/-- Entries that are written after others. -/
theorem writeEach_append {mid : FileTree} (h : j.writeEach es t = (.ok (), mid))
    (rest : List (Int × Entry)) : j.writeEach (es ++ rest) t = j.writeEach rest mid := by
  induction es generalizing t with
  | nil => rw [List.nil_append, (Prod.mk.inj h).2]
  | cons e es ih =>
    rw [Journal.writeEach] at h
    rw [List.cons_append, Journal.writeEach]
    split at h
    · exact ih h
    · cases h

/-! ## What the files hold -/

/-- **Entries that can be read back are all there**: the files have their rows. -/
theorem Filled.holdsRows (h : Filled j d es t) (hevents : ∀ row ∈ eventRows es, row.IsReadable)
    (hsteps : ∀ row ∈ stepRows es, row.IsReadable) :
    HoldsRows t j.eventsFile (eventRows es) ∧ HoldsRows t j.stepsFile (stepRows es) :=
  ⟨holdsRows_of_node? (h.files _ (by decide)) h.events hevents,
    holdsRows_of_node? (h.files _ (by decide)) h.steps hsteps⟩

/-- A row of a step that cannot be written adds nothing, but the file is there after it. -/
theorem Filled.write_unwritable_step (h : Filled j d es t)
    (hevents : ∀ row ∈ eventRows es, row.IsReadable) (hsteps : ∀ row ∈ stepRows es, row.IsReadable)
    (time : Int) {row : Json} (hrow : row.isWritable = false) :
    ∃ t', j.write time (.step row) t = (.error .tooManyDigits, t') ∧
      HoldsRows t' j.eventsFile (eventRows es) ∧ HoldsLines t' j.stepsFile (stepRows es) := by
  have hfile : "steps.jsonl" ∈ fileNames := by decide
  have hother : "events.jsonl" ∈ fileNames := by decide
  obtain ⟨happend, hn⟩ :=
    appendRow_of_not_isWritable (isName_of_mem_fileNames hfile) (h.files _ hfile) h.steps hrow
  have hfiles := files_put (n := rowsFile (stepRows es)) h.files hn
  refine ⟨_, happend, holdsRows_of_node? (hfiles _ hother) ?_ hevents,
    holdsLines_of_node? (hfiles _ hfile) (node?_put_file hn) hsteps⟩
  rw [node?_put_beside (by decide), h.events]

/-- An event that cannot be written adds nothing to those before it. -/
theorem Filled.write_unwritable_event (h : Filled j d es t) (hne : eventRows es ≠ [])
    (hevents : ∀ row ∈ eventRows es, row.IsReadable) (hsteps : ∀ row ∈ stepRows es, row.IsReadable)
    {time : Int} {name : Json} {fields : Json.Fields}
    (hrow : (eventRow time name fields).isWritable = false) :
    ∃ t', j.write time (.event name fields) t = (.error .tooManyDigits, t') ∧
      HoldsRows t' j.eventsFile (eventRows es) ∧ HoldsRows t' j.stepsFile (stepRows es) := by
  have hfile : "events.jsonl" ∈ fileNames := by decide
  have hother : "steps.jsonl" ∈ fileNames := by decide
  obtain ⟨happend, hn⟩ :=
    appendRow_of_not_isWritable (isName_of_mem_fileNames hfile) (h.files _ hfile) h.events hrow
  have hfiles := files_put (n := rowsFile (eventRows es)) h.files hn
  refine ⟨_, happend, holdsRows_of_node? (hfiles _ hfile) ?_ hevents,
    holdsRows_of_node? (hfiles _ hother) ?_ hsteps⟩
  · rw [node?_put_file hn, rowsNode?, if_neg hne]
  · rw [node?_put_beside (by decide), h.steps]

/-! ## Journals that were just opened -/

/-- Whether a journal has its directory and none of its files. -/
structure IsFresh (j : Journal) (t : FileTree) : Prop where
  isDirectory : t.isDirectory j.root = true
  missing : ∀ file ∈ fileNames, t.isThere (j.root ++ [file]) = .ok false

theorem IsFresh.filled (h : j.IsFresh t) : ∃ d, Filled j d [] t := by
  obtain ⟨d, hd, hdir⟩ := FileTree.isDirectory_iff.1 h.isDirectory
  have hnone : ∀ file ∈ fileNames, t.resolve (j.root ++ [file]) = .ok (d ++ [file]) ∧
      t.node? (d ++ [file]) = none := by
    intro file hfile
    have hfits : ∀ file ∈ fileNames, Path.hasZero [file] = false ∧
        file.utf8ByteSize ≤ FileTree.longestName := by decide
    obtain ⟨hzero, hlength⟩ := hfits file hfile
    exact (isName_of_mem_fileNames hfile).resolve_of_missing hzero hlength hd hdir
      (h.missing file hfile)
  -- no file stands for no rows, so that the files need not be made before the first entry
  refine ⟨d, fun file hfile => (hnone file hfile).1, ?_, (hnone _ (by decide)).2,
    (hnone _ (by decide)).2⟩
  rw [(hnone _ (by decide)).2]
  exact nofun

/-- A fresh journal takes all entries that can be written. -/
theorem IsFresh.writeEach (h : j.IsFresh t) (hes : ∀ e ∈ es, (e.2.toJson e.1).isWritable = true) :
    ∃ d t', j.writeEach es t = (.ok (), t') ∧ Filled j d es t' := by
  obtain ⟨d, hempty⟩ := h.filled
  obtain ⟨t', ht', hfilled⟩ := hempty.writeEach hes
  exact ⟨d, t', ht', hfilled⟩

end Journal

end MovePlan.Flow
