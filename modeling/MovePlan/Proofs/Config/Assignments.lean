import Mathlib.Data.List.Nodup
import MovePlan.Config.Assignments
import MovePlan.Proofs.Text.Blank
import MovePlan.Proofs.Text.Lines

/-!
# Files of assignments are read back

`Written` is an assignment as it may stand in a file: with quotes of either kind around the value, perhaps
after `export `, and with spaces around. Such a line gives its name and its value whatever the value
holds (`ofLine?_text`), and a line that assigns nothing is passed over (`ofLine?_of_passed`). A file of
such lines is read as the table that has the last value of each name (`read_written`).
-/

namespace MovePlan.Config

open Text Storage

/-! ## Lines -/

/-- An assignment as it is written on a line. -/
structure Written where
  name : String
  value : String
  /-- The character before and after the value. -/
  quote : Char
  exported : Bool
  /-- The numbers of spaces at the beginning of the line, after `export ` and at the end. -/
  before : Nat
  between : Nat
  after : Nat

/-- A line of a file of assignments. -/
inductive Line where
  | assigned (w : Written)
  | passed (text : List Char)

def spaces (n : Nat) : List Char := List.replicate n ' '

namespace Written

/-- The word that stands before a name that is exported. -/
def mark : List Char := ['e', 'x', 'p', 'o', 'r', 't', ' ']

/-- The mark and the spaces after it, if the name is exported. -/
def lead (w : Written) : List Char := if w.exported then mark ++ spaces w.between else []

/-- The value between its quotes. -/
def quoted (w : Written) : List Char := w.quote :: w.value.toList ++ [w.quote]

def text (w : Written) : List Char :=
  spaces w.before ++ (w.lead ++ w.name.toList ++ '=' :: w.quoted) ++ spaces w.after

/-- Whether an assignment can be read back: its name is a word without an equals sign that is not
taken for a comment, and its value lies on one line. -/
structure IsReadable (w : Written) : Prop where
  ne_empty : w.name ≠ ""
  name : ∀ c ∈ w.name.toList, isBlank c = false ∧ c ≠ '='
  comment : w.name.toList.head? ≠ some '#'
  value : IsLine w.value.toList
  quote : w.quote = '\'' ∨ w.quote = '"'

end Written

namespace Line

def text : Line → List Char
  | assigned w => w.text
  | passed text => text

/-- The assignment of a line. -/
def pair? : Line → Option (String × String)
  | assigned w => some (w.name, w.value)
  | passed _ => none

/-- Whether a line is an assignment that can be read back, or else is blank, a comment, or without an
equals sign. -/
def IsGood : Line → Prop
  | assigned w => w.IsReadable
  | passed text => IsLine text ∧ ((∀ c ∈ text, isBlank c = true) ∨
      (∃ before rest, text = before ++ '#' :: rest ∧ ∀ c ∈ before, isBlank c = true) ∨ '=' ∉ text)

end Line

theorem isBlank_of_mem_spaces {n : Nat} {c : Char} (h : c ∈ spaces n) : isBlank c = true := by
  rw [List.eq_of_mem_replicate h]
  decide

theorem isLine_spaces (n : Nat) : IsLine (spaces n) := fun c hc => by
  rw [List.eq_of_mem_replicate hc]
  decide

/-- Every line end is blank. -/
theorem isLineEnd_of_isBlank {c : Char} (h : isBlank c = false) : isLineEnd c = false := by
  have hranges : ∀ r ∈ blankRanges, ¬(r.1 ≤ c.toNat ∧ c.toNat ≤ r.2) := by
    simpa [isBlank, Ranges.holds] using h
  simp only [blankRanges, List.forall_mem_cons] at hranges
  simp only [isLineEnd, Bool.or_eq_false_iff, Bool.and_eq_false_iff, decide_eq_false_iff_not,
    beq_eq_false_iff_ne]
  omega

variable {w : Written}

theorem isLine_name (hw : w.IsReadable) : IsLine w.name.toList := fun c hc =>
  isLineEnd_of_isBlank (hw.name c hc).1

theorem isBlank_quote (hw : w.IsReadable) : isBlank w.quote = false := by
  rcases hw.quote with h | h <;> rw [h] <;> decide

theorem isLine_text (hw : w.IsReadable) : IsLine w.text := by
  have hquote := isLineEnd_of_isBlank (isBlank_quote hw)
  have hquoted : IsLine w.quoted :=
    List.forall_mem_append.mpr ⟨List.forall_mem_cons.mpr ⟨hquote, hw.value⟩,
      List.forall_mem_singleton.mpr hquote⟩
  have hlead : IsLine w.lead := by
    unfold Written.lead
    split
    · have hmark : IsLine Written.mark := by decide
      exact List.forall_mem_append.mpr ⟨hmark, isLine_spaces _⟩
    · exact fun _ hc => nomatch hc
  have hcore : IsLine (w.lead ++ w.name.toList ++ '=' :: w.quoted) :=
    List.forall_mem_append.mpr ⟨List.forall_mem_append.mpr ⟨hlead, isLine_name hw⟩,
      List.forall_mem_cons.mpr ⟨by decide, hquoted⟩⟩
  exact List.forall_mem_append.mpr ⟨List.forall_mem_append.mpr ⟨isLine_spaces _, hcore⟩,
    isLine_spaces _⟩

theorem Line.isLine (l : Line) (hl : l.IsGood) : IsLine l.text := by
  cases l with
  | assigned w => exact isLine_text hl
  | passed text => exact hl.1

/-! ## What a line assigns -/

namespace Assignments

/-- What stands before the first equals sign, and what stands after it. -/
theorem cut_append {name : List Char} (h : '=' ∉ name) (value : List Char) :
    cut (name ++ '=' :: value) = (name, value) := by
  have hne : ∀ c ∈ name, (c != '=') = true := fun c hc => bne_iff_ne.mpr fun he => h (he ▸ hc)
  rw [cut, List.takeWhile_append_of_pos hne, List.dropWhile_append_of_pos hne]
  simp

/-- A name without blanks is not taken for the mark of an export. -/
theorem withoutExport_eq_self {name : List Char} (h : ∀ c ∈ name, isBlank c = false)
    (value : List Char) : withoutExport (name ++ '=' :: value) = name ++ '=' :: value := by
  rw [withoutExport]
  intro rest heq
  have happend : name ++ '=' :: value = Written.mark ++ rest := heq
  have hblank : ' ' ∉ name := fun hm => absurd (h ' ' hm) (by decide)
  have hsign : '=' ∉ Written.mark := by decide
  rcases List.append_eq_append_iff.mp happend with ⟨mid, hmark, htail⟩ | ⟨mid, hname, -⟩
  · cases mid with
    | nil =>
      rw [List.append_nil] at hmark
      exact hblank (hmark ▸ by decide)
    | cons c mid =>
      obtain ⟨rfl, -⟩ := List.cons.inj htail
      exact hsign (hmark ▸ by simp)
  · exact hblank (hname ▸ List.mem_append_left mid (by decide))

/-- The value is found between its quotes, whatever it begins and ends with. -/
theorem unquote_trim_quoted (hw : w.IsReadable) : unquote (trim w.quoted) = w.value.toList := by
  have hself : trim w.quoted = w.quoted := by
    refine Padded.trimBy_eq_of_ends ⟨[], [], by simp, by simp, by simp⟩ (fun c hc => ?_) fun c hc => ?_
    · obtain rfl : w.quote = c := by simpa [Written.quoted] using hc
      exact isBlank_quote hw
    · obtain rfl : w.quote = c := by simpa [Written.quoted, List.getLast?_cons] using hc
      exact isBlank_quote hw
  rw [hself]
  simp [Written.quoted, unquote, hw.quote]

/-- What is left of a line when the spaces around it are gone. -/
theorem trim_text (hw : w.IsReadable) :
    trim w.text = w.lead ++ w.name.toList ++ '=' :: w.quoted := by
  obtain ⟨c, name, hname⟩ := List.exists_cons_of_ne_nil (String.toList_eq_nil_iff.not.mpr hw.ne_empty)
  refine Padded.trimBy_eq_of_ends ⟨_, _, rfl, fun _ => isBlank_of_mem_spaces,
    fun _ => isBlank_of_mem_spaces⟩ (fun first hfirst => ?_) (fun last hlast => ?_)
  · by_cases he : w.exported
    · obtain rfl : 'e' = first := by simpa [Written.lead, he, Written.mark] using hfirst
      decide
    · obtain rfl : c = first := by simpa [Written.lead, he, hname] using hfirst
      exact (hw.name c (hname ▸ List.mem_cons_self)).1
  · obtain rfl : w.quote = last := by
      simpa [Written.quoted, List.getLast?_append, List.getLast?_cons] using hlast
    exact isBlank_quote hw

/-- The name is found behind the mark of an export and the spaces after it. -/
theorem cut_withoutExport (hw : w.IsReadable) :
    ∃ n, cut (withoutExport (w.lead ++ w.name.toList ++ '=' :: w.quoted)) =
      (spaces n ++ w.name.toList, w.quoted) := by
  have hsign : '=' ∉ w.name.toList := fun hm => (hw.name '=' hm).2 rfl
  by_cases he : w.exported
  · refine ⟨w.between, ?_⟩
    have hspaces : '=' ∉ spaces w.between ++ w.name.toList := fun hm => by
      rcases List.mem_append.mp hm with hm | hm
      · exact absurd (isBlank_of_mem_spaces hm) (by decide)
      · exact hsign hm
    have hmark : withoutExport (w.lead ++ w.name.toList ++ '=' :: w.quoted) =
        spaces w.between ++ w.name.toList ++ '=' :: w.quoted := by
      rw [Written.lead, if_pos he, List.append_assoc, List.append_assoc, List.append_assoc]
      rfl
    rw [hmark, cut_append hspaces]
  · refine ⟨0, ?_⟩
    rw [Written.lead, if_neg he, List.nil_append,
      withoutExport_eq_self (fun c hc => (hw.name c hc).1), cut_append hsign]
    rfl

theorem ofLine?_eq_some {line before after : List Char} (hcomment : (trim line).head? ≠ some '#')
    (hsign : '=' ∈ trim line) (hcut : cut (withoutExport (trim line)) = (before, after))
    (hname : trim before ≠ []) :
    ofLine? line = some (String.ofList (trim before), String.ofList (unquote (trim after))) := by
  simp [ofLine?, hcomment, hsign, List.ne_nil_of_mem hsign, hcut, hname]

/-- **A line that assigns gives its name and its value**, whatever the value holds. -/
theorem ofLine?_text (hw : w.IsReadable) : ofLine? w.text = some (w.name, w.value) := by
  have hname : w.name.toList ≠ [] := String.toList_eq_nil_iff.not.mpr hw.ne_empty
  have hcomment : (trim w.text).head? ≠ some '#' := by
    rw [trim_text hw]
    by_cases he : w.exported
    · simp [Written.lead, he, Written.mark]
    · obtain ⟨c, name, hcons⟩ := List.exists_cons_of_ne_nil hname
      simpa [Written.lead, he, hcons] using hw.comment
  have hsign : '=' ∈ trim w.text := by simp [trim_text hw]
  obtain ⟨n, hcut⟩ := cut_withoutExport hw
  have htrim : trim (spaces n ++ w.name.toList) = w.name.toList :=
    Padded.trimBy_eq ⟨spaces n, [], by simp, fun _ => isBlank_of_mem_spaces, by simp⟩
      fun c hc => (hw.name c hc).1
  rw [ofLine?_eq_some hcomment hsign (trim_text hw ▸ hcut) (by rwa [htrim]), htrim,
    unquote_trim_quoted hw, String.ofList_toList, String.ofList_toList]

/-- **A line that is blank, a comment or without an equals sign assigns nothing.** -/
theorem ofLine?_of_passed {text : List Char} (h : (Line.passed text).IsGood) : ofLine? text = none := by
  rcases h.2 with hblank | ⟨before, rest, rfl, hbefore⟩ | hsign
  · have htrim : trim text = [] := Padded.trimBy_eq ⟨text, [], by simp, hblank, by simp⟩ (by simp)
    simp [ofLine?, htrim]
  · have htrim : trim (before ++ '#' :: rest) = '#' :: dropWhileEnd isBlank rest := by
      rw [trim, trimBy, List.dropWhile_append_of_pos hbefore]
      exact trimBy_append (s := ['#']) (List.forall_mem_singleton.mpr (by decide)) (by simp) rest
    simp [ofLine?, htrim]
  · obtain ⟨before, after, htext, -⟩ := padded_trimBy isBlank text
    have htrim : '=' ∉ trim text := fun hm => hsign (by
      rw [htext]
      exact List.mem_append_left _ (List.mem_append_right _ hm))
    simp [ofLine?, htrim]

theorem ofLine?_of_good {l : Line} (hl : l.IsGood) : ofLine? l.text = l.pair? := by
  cases l with
  | assigned w => exact ofLine?_text hl
  | passed text => exact ofLine?_of_passed hl

/-! ## What a file assigns -/

/-- The text of a file: lines with the characters that end them, and a last line without an end. The two
characters that end a line together count as one end and an empty line with another. -/
def fileText (lines : List (Line × Char)) (last : Line) : List Char :=
  lines.flatMap (fun l => l.1.text ++ [l.2]) ++ last.text

/-- The assignments that the lines of a file make. -/
def pairs (lines : List (Line × Char)) (last : Line) : List (String × String) :=
  (lines.map Prod.fst ++ [last]).filterMap Line.pair?

/-- **The lines of a file give what is written on them**, one after the other. -/
theorem givenByLines_fileText {lines : List (Line × Char)} {last : Line}
    (hlines : ∀ l ∈ lines, l.1.IsGood ∧ isLineEnd l.2 = true) (hlast : last.IsGood) :
    givenByLines ofLine? (fileText lines last) = pairs lines last := by
  have hempty : ofLine? [] = none := rfl
  induction lines with
  | nil =>
    have hgiven := givenByLines_of_isLine hempty (last.isLine hlast)
    rw [ofLine?_of_good hlast] at hgiven
    rw [fileText, List.flatMap_nil, List.nil_append, hgiven, pairs]
    cases hp : last.pair? <;> simp [hp]
  | cons l rest ih =>
    obtain ⟨⟨hgood, hend⟩, hrest⟩ := List.forall_mem_cons.mp hlines
    have htext : fileText (l :: rest) last = l.1.text ++ l.2 :: fileText rest last := by simp [fileText]
    rw [htext, givenByLines_append hempty (l.1.isLine hgood) hend, ofLine?_of_good hgood, ih hrest, pairs,
      pairs]
    cases hp : l.1.pair? <;> simp [hp]

/-- Whether a value is the last one that a name is given. -/
def IsLast (entries : List (String × String)) (name value : String) : Prop :=
  ∃ before after, entries = before ++ (name, value) :: after ∧ name ∉ after.map Prod.fst

variable {a : Assignments} {name value : String}

theorem get?_put_self : (put name value a).get? name = some value := by
  induction a with
  | nil => simp [put, get?]
  | cons e rest ih =>
    obtain ⟨k, v⟩ := e
    by_cases hk : k = name
    · simp [put, get?, hk]
    · simpa [put, get?, hk, List.lookup_cons, beq_false_of_ne (Ne.symm hk)] using ih

theorem get?_put_of_ne {other : String} (h : other ≠ name) : (put name value a).get? other = a.get? other := by
  induction a with
  | nil => simp [put, get?, List.lookup_cons, beq_false_of_ne h]
  | cons e rest ih =>
    obtain ⟨k, v⟩ := e
    by_cases hk : k = name
    · subst hk
      simp [put, get?, List.lookup_cons, beq_false_of_ne h]
    · simp only [get?] at ih
      simp [put, get?, hk, List.lookup_cons, ih]

/-- A name that is there keeps its place; another one comes to the end. -/
theorem names_put : (put name value a).map Prod.fst =
    if name ∈ a.map Prod.fst then a.map Prod.fst else a.map Prod.fst ++ [name] := by
  induction a with
  | nil => simp [put]
  | cons e rest ih =>
    obtain ⟨k, v⟩ := e
    by_cases hk : k = name
    · simp [put, hk]
    · by_cases hmem : name ∈ rest.map Prod.fst
      · rw [if_pos hmem] at ih
        simp [put, hk, ih, hmem]
      · rw [if_neg hmem] at ih
        simp [put, hk, ih, hmem, Ne.symm hk]

theorem nodup_put (ha : (a.map Prod.fst).Nodup) : ((put name value a).map Prod.fst).Nodup := by
  rw [names_put]
  split
  · exact ha
  · next hmem =>
    rw [← List.concat_eq_append]
    exact ha.concat hmem

/-- A value that is the last one stands later, or else stands first and its name does not come again. -/
theorem isLast_cons_iff {e : String × String} {rest : List (String × String)} :
    IsLast (e :: rest) name value ↔
      IsLast rest name value ∨ (e = (name, value) ∧ name ∉ rest.map Prod.fst) := by
  constructor
  · rintro ⟨before, after, heq, hlast⟩
    cases before with
    | nil =>
      obtain ⟨rfl, rfl⟩ := List.cons.inj heq
      exact Or.inr ⟨rfl, hlast⟩
    | cons b before =>
      obtain ⟨rfl, rfl⟩ := List.cons.inj heq
      exact Or.inl ⟨before, after, rfl, hlast⟩
  · rintro (⟨before, after, rfl, hlast⟩ | ⟨rfl, hlast⟩)
    · exact ⟨e :: before, after, rfl, hlast⟩
    · exact ⟨[], rest, rfl, hlast⟩

/-- **Of the values of a name the last one counts**, and where there is none what was there before. -/
theorem get?_foldl_put_iff {entries : List (String × String)} :
    Assignments.get? (entries.foldl (fun a e => put e.1 e.2 a) a) name = some value ↔
      IsLast entries name value ∨ (name ∉ entries.map Prod.fst ∧ a.get? name = some value) := by
  induction entries generalizing a with
  | nil => simp [IsLast]
  | cons e rest ih =>
    obtain ⟨k, v⟩ := e
    rw [List.foldl_cons, ih, isLast_cons_iff, List.map_cons, List.mem_cons, not_or]
    by_cases hk : name = k
    · subst hk
      simp only [get?_put_self, Prod.mk.injEq, Option.some.injEq, true_and, not_true, false_and, or_false]
      tauto
    · have hne : ¬((k, v) = (name, value) ∧ name ∉ rest.map Prod.fst) := fun h =>
        hk (Prod.mk.inj h.1).1.symm
      simp only [get?_put_of_ne hk, hne, or_false, hk, not_false_eq_true, true_and]

theorem nodup_foldl_put {entries : List (String × String)} (ha : (a.map Prod.fst).Nodup) :
    ((entries.foldl (fun a e => put e.1 e.2 a) a).map Prod.fst).Nodup := by
  induction entries generalizing a with
  | nil => exact ha
  | cons e rest ih => exact ih (nodup_put ha)

/-- A table that holds for each name the last of its values, and nothing else. -/
structure Holds (a : Assignments) (entries : List (String × String)) : Prop where
  nodup : (a.map Prod.fst).Nodup
  last : ∀ name value, a.get? name = some value ↔ IsLast entries name value

theorem holds_ofText {lines : List (Line × Char)} {last : Line}
    (hlines : ∀ l ∈ lines, l.1.IsGood ∧ isLineEnd l.2 = true) (hlast : last.IsGood) :
    (ofText (String.ofList (unifyLineEnds (fileText lines last)))).Holds (pairs lines last) := by
  have hgiven := givenByLines_fileText hlines hlast
  rw [givenByLines] at hgiven
  rw [ofText, String.toList_ofList, hgiven]
  refine ⟨nodup_foldl_put (a := []) List.nodup_nil, fun name value => ?_⟩
  rw [get?_foldl_put_iff]
  simp [get?]

/-- **A written file of assignments is read back exactly.** Where a file has lines that assign values to
names, with blank lines, comments and lines without an equals sign in between, and any line ends, the
table that is read has each of these names with its last value, and no other name. -/
theorem read_written {t : FileTree} {path : String} {place : Path} {lines : List (Line × Char)}
    {last : Line} (hlines : ∀ l ∈ lines, l.1.IsGood ∧ isLineEnd l.2 = true) (hlast : last.IsGood)
    (hplace : t.resolve (Path.parse path) = .ok place)
    (hfile : t.node? place = some (.file (.text (String.ofList (fileText lines last))))) :
    ∃ a, Assignments.read t path = .ok a ∧ a.Holds (pairs lines last) := by
  have hthere : t.isThere (Path.parse path) = .ok true := by
    rw [FileTree.isThere, hplace]
    simp [hfile]
  have hread : t.read (Path.parse path) = .ok (String.ofList (unifyLineEnds (fileText lines last))) := by
    rw [FileTree.read, hplace]
    simp [hfile, bind, Except.bind, FileTree.contentText]
  refine ⟨_, ?_, holds_ofText hlines hlast⟩
  simp [Assignments.read, hthere, hread, bind, Except.bind, pure, Except.pure]

/-- A key that is given twice, first after `export `. -/
def oldKey : Written := ⟨"API_KEY", "old", '\'', true, 2, 1, 0⟩

/-- Its value looks like a comment, an assignment and the end of itself. -/
def newKey : Written := ⟨"API_KEY", " # a='b'\" ", '"', false, 0, 0, 3⟩

theorem isReadable_oldKey : oldKey.IsReadable where
  ne_empty := by decide
  name := @of_decide_eq_true _ (List.decidableBAll _ _) rfl
  comment := by decide
  value := by decide
  quote := by decide

theorem isReadable_newKey : newKey.IsReadable where
  ne_empty := by decide
  name := @of_decide_eq_true _ (List.decidableBAll _ _) rfl
  comment := by decide
  value := by decide
  quote := by decide

/-- The two keys with a comment between them, and different line ends. -/
def keyLines : List (Line × Char) :=
  [(.assigned oldKey, '\r'), (.passed [], '\n'), (.passed ['#', '='], '\n')]

def keyTree : FileTree :=
  ⟨[([".env"], .file (.text (String.ofList (fileText keyLines (.assigned newKey)))))]⟩

theorem isGood_keyLines : ∀ l ∈ keyLines, l.1.IsGood ∧ isLineEnd l.2 = true := by
  have hempty : (Line.passed []).IsGood := ⟨fun _ hc => (nomatch hc), Or.inl fun _ hc => nomatch hc⟩
  have hcomment : (Line.passed ['#', '=']).IsGood :=
    ⟨by decide, Or.inr (Or.inl ⟨[], ['='], rfl, by simp⟩)⟩
  have hold : (Line.assigned oldKey).IsGood := isReadable_oldKey
  refine List.forall_mem_cons.mpr ⟨⟨hold, by decide⟩, List.forall_mem_cons.mpr ⟨⟨hempty, by decide⟩, ?_⟩⟩
  exact List.forall_mem_singleton.mpr ⟨hcomment, by decide⟩

theorem read_written_keys :
    ∃ a, Assignments.read keyTree ".env" = .ok a ∧ a.Holds (pairs keyLines (.assigned newKey)) ∧
      a.get? "API_KEY" = some " # a='b'\" " := by
  have hnew : (Line.assigned newKey).IsGood := isReadable_newKey
  have hplace : keyTree.resolve (Path.parse ".env") = .ok [".env"] := rfl
  obtain ⟨a, hread, ha⟩ := read_written isGood_keyLines hnew hplace rfl
  exact ⟨a, hread, ha, (ha.last _ _).2 ⟨[("API_KEY", "old")], [], rfl, by simp⟩⟩

end Assignments

end MovePlan.Config
