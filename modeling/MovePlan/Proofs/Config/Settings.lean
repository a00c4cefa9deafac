import MovePlan.Config.Settings
import MovePlan.Proofs.Json.Bounds
import MovePlan.Proofs.Storage.FileTree

/-!
# The timeout among the settings

Settings are found in every environment and in every file of text, whatever is given as timeout
(`load_eq_ok`), and the timeout lies between the shortest and the longest one (`timeoutOf_inRange`)
unless its text is a name of NaN, which goes through as the timeout itself
(`numbers_stay_within`).
-/

namespace MovePlan.Config

open Numeric Binary64 Text Storage
open Error (bind_eq_ok_iff)

namespace Settings

variable {defaults : Settings} {d x : Binary64} {s text : String} {t : FileTree} {path : String}

/-! ## Timeouts -/

/-- Whether a number of seconds is from 1 to 600. -/
def InRange (x : Binary64) : Prop := ∃ q : ℚ, x.place? = some (.of q) ∧ 1 ≤ q ∧ q ≤ 600

theorem inRange_builtIn : InRange builtIn.timeout := by
  have hthirty : builtIn.timeout = .finite false (30 * 2 ^ 48) (-48) := by decide +kernel
  refine ⟨30, ?_, by norm_num, by norm_num⟩
  rw [hthirty, Binary64.place?, rational]
  norm_num [zpow_neg]

/-- The bounds of a timeout as values. -/
def shortest : Json := .float (.ofInt shortestTimeout)

def longest : Json := .float (.ofInt longestTimeout)

theorem place?_shortest : shortest.place? = some (.of 1) := by
  have hone : Binary64.ofInt shortestTimeout = .finite false (2 ^ 52) (-52) := by decide +kernel
  rw [shortest, Json.place?, hone, Binary64.place?, rational]
  norm_num [zpow_neg]

theorem place?_longest : longest.place? = some (.of 600) := by
  have hbig : Binary64.ofInt longestTimeout = .finite false (600 * 2 ^ 43) (-43) := by decide +kernel
  rw [longest, Json.place?, hbig, Binary64.place?, rational]
  norm_num [zpow_neg]

/-- What lies between the two bounds is in range, and no infinity does. -/
theorem inRange_iff_within : InRange x ↔ Json.Within shortest longest (.float x) := by
  rw [Json.within_iff place?_shortest place?_longest, Json.place?]
  have hof : ∀ {p q : ℚ}, Line.of p ≤ Line.of q ↔ p ≤ q := fun {p q} => by
    rw [← not_lt, Line.of_lt_of, not_lt]
  constructor
  · rintro ⟨q, hq, hlow, hhigh⟩
    exact ⟨_, hq, hof.2 hlow, hof.2 hhigh⟩
  · rintro ⟨y, hy, hlow, hhigh⟩
    cases x with
    | nan => cases hy
    | infinity negative =>
      cases hy
      cases negative with
      | true => exact absurd hlow (not_le.2 (Line.bot_lt_of 1))
      | false => exact absurd hhigh (not_le.2 (Line.of_lt_top 600))
    | finite negative m e =>
      cases hy
      exact ⟨_, rfl, hof.1 hlow, hof.1 hhigh⟩

/-- The number that a text gives, as a value put between the bounds. -/
def bounded (d : Binary64) (s : String) : Except Error Json :=
  Json.numberWithin (.float d) shortest longest (.str s)

/-- A text gives always a number, and that is the timeout. -/
theorem bounded_eq (d : Binary64) (s : String) : bounded d s = .ok (.float (timeoutOf d s)) := by
  have hnumber : ∃ z, bounded d s = .ok (.float z) := by
    rw [bounded, Json.numberWithin, Json.toBinary64?]
    cases readBinary64? s.toList with
    | none => exact ⟨d, rfl⟩
    | some z =>
      simp only [bind, Except.bind, pure, Except.pure]
      split
      · rw [Json.lesser, Json.greater, shortest, longest]
        split <;> split <;> exact ⟨_, rfl⟩
      · exact ⟨z, rfl⟩
  obtain ⟨z, hz⟩ := hnumber
  have htimeout : timeoutOf d s = z := by
    rw [timeoutOf]
    simp only [bounded, shortest, longest] at hz
    rw [hz]
  rw [hz, htimeout]

/-- The timeout of a text is in range, unless the text spells NaN. -/
theorem timeoutOf_inRange (hd : InRange d) :
    (¬ SpellsNaN s.toList → InRange (timeoutOf d s)) ∧
      (SpellsNaN s.toList → timeoutOf d s = .nan) := by
  have hbounded := Json.bounded_numberWithin (inRange_iff_within.1 hd) (.str s)
  have heq := bounded_eq d s
  rw [bounded] at heq
  rw [heq] at hbounded
  generalize timeoutOf d s = x at hbounded ⊢
  cases hbounded with
  | number hnan _ _ _ hin => exact ⟨fun _ => inRange_iff_within.2 hin, fun h => absurd h hnan⟩
  | nan hnan => exact ⟨fun h => absurd hnan h, fun _ => rfl⟩

/-! ## Settings that are found -/

/-- Whether the contents of a file are text in UTF-8. -/
inductive IsText : Content → Prop where
  | text (s : String) : IsText (.text s)
  | bytes {b : List UInt8} {s : List Char} (h : Encoding.utf8.decode b = .ok s) : IsText (.bytes b)

/-- Whether a path leads to a file of text, or to nothing. -/
def IsReadable (t : FileTree) (path : String) : Prop :=
  (∃ place content, t.resolve (Path.parse path) = .ok place ∧
    t.node? place = some (.file content) ∧ IsText content) ∨
  t.isThere (Path.parse path) = .ok false

theorem exists_read_eq_ok (h : IsReadable t path) :
    ∃ file, Assignments.read t path = .ok file := by
  rw [Assignments.read]
  obtain ⟨place, content, hplace, hnode, htext⟩ | hmissing := h
  · have hthere : t.isThere (Path.parse path) = .ok true := by
      rw [FileTree.isThere_of_resolve hplace, hnode]
      rfl
    have hread : ∃ s, t.read (Path.parse path) = .ok s := by
      rw [FileTree.read, hplace]
      simp only [bind, Except.bind, hnode]
      cases htext with
      | text s => exact ⟨_, rfl⟩
      | bytes hb => simp [FileTree.contentText, hb]
    obtain ⟨s, hs⟩ := hread
    exact ⟨Assignments.ofText s, by simp [hthere, hs, bind, Except.bind, pure, Except.pure]⟩
  · exact ⟨[], by simp [hmissing, bind, Except.bind, pure, Except.pure]⟩

/-- What is found in a file, or without one. -/
def Finds (t : FileTree) (path : Option String) (file : Assignments) : Prop :=
  (path = none → file = []) ∧ ∀ p, path = some p → Assignments.read t p = .ok file

/-- Settings are found whatever is given as timeout. -/
theorem load_eq_ok (defaults : Settings) (env : Assignments) {path : Option String}
    (h : ∀ p, path = some p → IsReadable t p) :
    ∃ file, Finds t path file ∧ load defaults env t path = .ok (resolve defaults env file) := by
  cases path with
  | none => exact ⟨[], ⟨fun _ => rfl, nofun⟩, rfl⟩
  | some p =>
    obtain ⟨file, hfile⟩ := exists_read_eq_ok (h p rfl)
    refine ⟨file, ⟨nofun, fun p' hp => Option.some.inj hp ▸ hfile⟩, ?_⟩
    rw [load]
    simp [hfile, bind, Except.bind, pure, Except.pure]

/-- What holds of the timeout that is found. -/
structure Timed (defaults : Settings) (env file : Assignments) : Prop where
  /-- A text that is given is read without an error, and put between the bounds. -/
  given : ∀ text, valueOf env file timeoutName = some text →
    bounded defaults.timeout text = .ok (.float (resolve defaults env file).timeout)
  /-- The timeout is in range unless the text spells NaN. -/
  inRange : (∀ text, valueOf env file timeoutName = some text → ¬ SpellsNaN text.toList) →
    InRange (resolve defaults env file).timeout
  /-- NaN passes by the bounds. -/
  nan : ∀ text, valueOf env file timeoutName = some text → SpellsNaN text.toList →
    (resolve defaults env file).timeout = .nan

theorem timed_resolve (hd : InRange defaults.timeout) (env file : Assignments) :
    Timed defaults env file := by
  have htimeout : (resolve defaults env file).timeout =
      ((valueOf env file timeoutName).map (timeoutOf defaults.timeout)).getD defaults.timeout := rfl
  constructor
  · intro text htext
    rw [htimeout, htext, Option.map_some, Option.getD_some, bounded_eq]
  · intro hnan
    rw [htimeout]
    cases htext : valueOf env file timeoutName with
    | none => exact hd
    | some text => exact (timeoutOf_inRange hd).1 (hnan text htext)
  · intro text htext hnan
    rw [htimeout, htext]
    exact (timeoutOf_inRange hd).2 hnan

/-- **Numbers stay within their bounds**, but for NaN and integers beyond the format; and settings are
found whatever is given as timeout, with the timeout in range but for NaN. -/
theorem numbers_stay_within {default low high : Json} (hdefault : Json.Within low high default)
    (j : Json) {defaults : Settings} (hd : InRange defaults.timeout) (env : Assignments)
    {path : Option String} (hpath : ∀ p, path = some p → IsReadable t p) :
    Json.Bounded default low high j (Json.numberWithin default low high j) ∧
      ∃ file, Finds t path file ∧ load defaults env t path = .ok (resolve defaults env file) ∧
        Timed defaults env file := by
  obtain ⟨file, hfinds, hload⟩ := load_eq_ok defaults env hpath
  exact ⟨Json.bounded_numberWithin hdefault j, file, hfinds, hload, timed_resolve hd env file⟩

/-- A file with a timeout that is too long, and a number that is too small. -/
theorem numbers_stay_within_file :
    Json.Within shortest longest (.float builtIn.timeout) ∧
    Json.Bounded (.float builtIn.timeout) shortest longest (.str " -1_0.5e0 ")
      (bounded builtIn.timeout " -1_0.5e0 ") ∧
    ∃ file, Finds ⟨[([".env"], .file (.text (timeoutName ++ "=9999\n")))]⟩ (some ".env") file ∧
      valueOf [] file timeoutName = some "9999" ∧ Timed builtIn [] file ∧
      InRange (resolve builtIn [] file).timeout := by
  have hin := inRange_iff_within.1 inRange_builtIn
  have hreadable : ∀ p, some ".env" = some p →
      IsReadable ⟨[([".env"], .file (.text (timeoutName ++ "=9999\n")))]⟩ p := by
    intro p hp
    cases hp
    exact .inl ⟨[".env"], _, rfl, rfl, .text _⟩
  obtain ⟨hbounded, file, hfinds, -, htimed⟩ := numbers_stay_within hin (.str " -1_0.5e0 ")
    inRange_builtIn [] hreadable
  have hfile : file = [(timeoutName, "9999")] := by
    have hread := hfinds.2 ".env" rfl
    exact Except.ok.inj (hread.symm.trans rfl)
  refine ⟨hin, hbounded, file, hfinds, ?_, htimed, ?_⟩
  · rw [hfile]
    decide +kernel
  · refine htimed.inRange fun text htext => ?_
    obtain rfl : text = "9999" := by
      rw [hfile] at htext
      exact Option.some.inj (htext.symm.trans (by decide +kernel))
    rw [← readBinary64?_eq_nan_iff]
    decide +kernel

/-- The name of NaN as timeout is taken for one that is in range, and an integer beyond the format is
no number to put between bounds. -/
theorem bounds_pass_nan :
    (∃ settings, load builtIn [(timeoutName, "nan")] {} none = .ok settings ∧
      settings.timeout = .nan ∧ ¬ InRange settings.timeout) ∧
    Json.Within shortest longest (.float builtIn.timeout) ∧
    Json.numberWithin (.float builtIn.timeout) shortest longest (.int (10 ^ 400)) =
      .error .overflow := by
  have hnan : (resolve builtIn [(timeoutName, "nan")] []).timeout = .nan := by decide +kernel
  have hbeyond : Json.IsBeyond (.int (10 ^ 400)) := by
    have hle : 2 ^ 1024 - 2 ^ 970 ≤ (10 ^ 400 : Int).natAbs := by decide +kernel
    exact hle
  refine ⟨⟨_, rfl, hnan, ?_⟩, inRange_iff_within.1 inRange_builtIn,
    Json.numberWithin_of_beyond hbeyond⟩
  rw [hnan]
  rintro ⟨q, hq, -⟩
  cases hq

end Settings

end MovePlan.Config
