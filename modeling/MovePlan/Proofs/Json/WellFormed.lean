import MovePlan.Proofs.Json.RoundTrip

/-!
# What is read is well-formed

Of repeated keys the reader keeps the last, it rounds the numbers that it reads to ones of the format,
and it takes no integer with too many digits. So all values that it holds on the way are well-formed
and have a text, and with them the one that it gives. Such values are just those that a text says
(`isReadable_iff_exists_read`).
-/

namespace MovePlan.Json

open Numeric Text

variable {v : Json} {s : List Char} {fs : Fields}

/-! ## Kinds of values -/

attribute [simp] WellFormed.null WellFormed.bool WellFormed.int WellFormed.str

@[simp]
theorem wellFormed_float_iff {x : Binary64} : WellFormed (float x) ↔ x.IsProper :=
  ⟨fun h => by cases h with | float proper => exact proper, .float⟩

@[simp]
theorem wellFormed_arr_iff {xs : List Json} : WellFormed (arr xs) ↔ ∀ x ∈ xs, WellFormed x :=
  ⟨fun h => by cases h with | arr items => exact items, .arr⟩

/-- An object is well-formed if no key is there twice and its values are. -/
@[simp]
theorem wellFormed_obj_iff :
    WellFormed (obj fs) ↔ (fs.map Prod.fst).Nodup ∧ ∀ f ∈ fs, WellFormed f.2 :=
  ⟨fun h => by cases h with | obj nodup values => exact ⟨nodup, values⟩,
    fun ⟨nodup, values⟩ => .obj nodup values⟩

@[simp]
theorem wellFormed_nat (n : Nat) : WellFormed (nat n) := .int n

@[simp]
theorem wellFormed_ofOption {α : Type} {f : α → Json} {a : Option α} :
    WellFormed (ofOption f a) ↔ ∀ x ∈ a, WellFormed (f x) := by
  cases a <;> simp [ofOption]

/-! ## Fields of objects -/

/-- A field of an object is well-formed. -/
theorem WellFormed.of_field? (h : WellFormed (Json.obj fs)) {key : String}
    (hf : field? key fs = some v) : WellFormed v := by
  obtain ⟨hnodup, hvalues⟩ := wellFormed_obj_iff.1 h
  exact hvalues _ ((field?_eq_some_iff_mem hnodup).1 hf)

/-- To set a field adds its key unless it is there. -/
theorem keys_setField (key : String) (v : Json) (fs : Fields) :
    (setField key v fs).map Prod.fst =
      if key ∈ fs.map Prod.fst then fs.map Prod.fst else fs.map Prod.fst ++ [key] := by
  induction fs with
  | nil => rfl
  | cons f fs ih =>
    obtain ⟨k, w⟩ := f
    rw [setField]
    by_cases hk : k = key
    · simp [hk]
    · simp only [if_neg hk, List.map_cons, ih, List.mem_cons, Ne.symm hk, false_or]
      split <;> rfl

/-- The fields are the new one and old ones. -/
theorem eq_or_mem_of_mem_setField {key : String} {f : String × Json} (h : f ∈ setField key v fs) :
    f = (key, v) ∨ f ∈ fs := by
  induction fs with
  | nil => exact .inl (List.mem_singleton.1 h)
  | cons g fs ih =>
    obtain ⟨k, w⟩ := g
    rw [setField] at h
    split at h
    · next hk =>
      rw [hk] at h
      exact (List.mem_cons.1 h).imp_right (List.mem_cons_of_mem _)
    · obtain rfl | h := List.mem_cons.1 h
      · exact .inr List.mem_cons_self
      · exact (ih h).imp_right (List.mem_cons_of_mem _)

@[simp] theorem isReadable_null : IsReadable null := ⟨.null, rfl⟩

@[simp] theorem isReadable_bool (b : Bool) : IsReadable (bool b) := ⟨.bool b, rfl⟩

@[simp] theorem isReadable_str (s : String) : IsReadable (str s) := ⟨.str s, rfl⟩

/-- An integer is what some text says if it has a text. -/
@[simp] theorem isReadable_int_iff {n : Int} : IsReadable (int n) ↔ hasText n = true :=
  ⟨fun h => h.writable, fun h => ⟨.int n, h⟩⟩

@[simp] theorem isReadable_float_iff {x : Binary64} : IsReadable (float x) ↔ x.IsProper :=
  ⟨fun h => wellFormed_float_iff.1 h.wellFormed, fun h => ⟨.float h, rfl⟩⟩

/-- An array is readable if its items are. -/
@[simp]
theorem isReadable_arr_iff {xs : List Json} :
    IsReadable (arr xs) ↔ ∀ x ∈ xs, IsReadable x := by
  constructor
  · intro h x hx
    exact ⟨wellFormed_arr_iff.1 h.wellFormed x hx, isWritable_arr.1 h.writable x hx⟩
  · intro h
    exact ⟨.arr fun x hx => (h x hx).wellFormed, isWritable_arr.2 fun x hx => (h x hx).writable⟩

/-- An object is readable if its keys are distinct and the values of its fields are readable. -/
@[simp]
theorem isReadable_obj_iff :
    IsReadable (obj fs) ↔ (fs.map Prod.fst).Nodup ∧ ∀ f ∈ fs, IsReadable f.2 := by
  constructor
  · intro h
    obtain ⟨hnodup, hvalues⟩ := wellFormed_obj_iff.1 h.wellFormed
    exact ⟨hnodup, fun f hf => ⟨hvalues f hf, isWritable_obj.1 h.writable f hf⟩⟩
  · rintro ⟨hnodup, h⟩
    exact ⟨.obj hnodup fun f hf => (h f hf).wellFormed,
      isWritable_obj.2 fun f hf => (h f hf).writable⟩

/-- A field of a readable object is readable. -/
theorem IsReadable.of_field? {fields : Fields} (h : IsReadable (.obj fields)) {key : String} {v : Json}
    (hv : field? key fields = some v) : IsReadable v := by
  obtain ⟨hnodup, hvalues⟩ := isReadable_obj_iff.1 h
  exact hvalues _ ((field?_eq_some_iff_mem hnodup).1 hv)

/-- To set a field keeps an object readable. -/
theorem isReadable_setField (h : IsReadable (obj fs)) (key : String) (hv : IsReadable v) :
    IsReadable (obj (setField key v fs)) := by
  obtain ⟨hnodup, hvalues⟩ := isReadable_obj_iff.1 h
  refine isReadable_obj_iff.2 ⟨?_, fun f hf => ?_⟩
  · rw [keys_setField]
    split
    · exact hnodup
    · next hk =>
      refine List.nodup_append.2 ⟨hnodup, List.nodup_singleton _, fun k hkeys l hl he => hk ?_⟩
      rwa [← List.mem_singleton.1 hl, ← he]
  · obtain rfl | hf := eq_or_mem_of_mem_setField hf
    · exact hv
    · exact hvalues f hf

/-- Fields with any keys are made those of an object. -/
theorem isReadable_ofFields (h : ∀ f ∈ fs, IsReadable f.2) : IsReadable (obj (ofFields fs)) := by
  have hfold : ∀ acc, IsReadable (obj acc) →
      IsReadable (obj (fs.foldl (fun acc f => setField f.1 f.2 acc) acc)) := by
    induction fs with
    | nil => exact fun _ hacc => hacc
    | cons f fs ih =>
      obtain ⟨hf, hfs⟩ := List.forall_mem_cons.1 h
      exact fun acc hacc => ih hfs _ (isReadable_setField hacc f.1 hf)
  exact hfold [] (isReadable_obj_iff.2 ⟨List.nodup_nil, List.forall_mem_nil _⟩)

/-! ## Plain values -/

/-- A number is readable unless it is an integer of too many digits. -/
theorem isReadable_numberValue {negative : Bool} {whole : List Char} {tail : NumberTail}
    (h : surplus? (numberValue negative whole tail) = none) :
    IsReadable (numberValue negative whole tail) := by
  unfold numberValue at h ⊢
  split at h
  · next hdecimals hpower =>
    refine ⟨.int _, ?_⟩
    by_contra hlong
    simp only [surplus?, isWritable_int] at h hlong
    simp [hlong] at h
  · exact ⟨.float (Binary64.isProper_ofDecimal _ _ _), rfl⟩

/-- A number that is read is one that a text says. -/
theorem isReadable_of_readMagnitude? {negative : Bool} {r : Json × List Char}
    (h : readMagnitude? negative s = some r) (hr : surplus? r.1 = none) : IsReadable r.1 := by
  unfold readMagnitude? at h
  split at h
  · cases h
  · cases h
    exact isReadable_numberValue hr

theorem isReadable_of_mem_words {w : List Char × Json} (h : w ∈ words) : IsReadable w.2 := by
  simp only [words, List.mem_cons, List.not_mem_nil, or_false] at h
  obtain rfl | rfl | rfl | rfl | rfl | rfl := h
  · exact ⟨.null, rfl⟩
  · exact ⟨.bool true, rfl⟩
  · exact ⟨.bool false, rfl⟩
  all_goals exact ⟨.float trivial, rfl⟩

theorem isReadable_of_readWord? {ws : List (List Char × Json)} (hws : ∀ w ∈ ws, IsReadable w.2)
    {r : Json × List Char} (h : readWord? s ws = some r) : IsReadable r.1 := by
  induction ws with
  | nil => cases h
  | cons w more ih =>
    obtain ⟨hw, hmore⟩ := List.forall_mem_cons.1 hws
    rw [readWord?] at h
    split at h
    · cases h
      exact hw
    · exact ih hmore h

/-- Every plain value that is not too long can be read back. -/
theorem isReadable_of_readPlain? {r : Json × List Char} (h : readPlain? s = some r)
    (hr : surplus? r.1 = none) : IsReadable r.1 := by
  unfold readPlain? at h
  split at h
  · next hw =>
    cases h
    exact isReadable_of_readWord? (fun _ => isReadable_of_mem_words) hw
  · unfold readNumber? at h
    split at h <;> exact isReadable_of_readMagnitude? h hr

/-! ## The reader -/

/-- Whether all values in an open array or object are readable. -/
def Frame.Sound : Frame → Prop
  | .array before => ∀ x ∈ before, IsReadable x
  | .object before _ => ∀ f ∈ before, IsReadable f.2

/-- Whether the values that a phase holds are readable. -/
def Phase.Sound : Phase → Prop
  | .value | .firstItem | .firstKey => True
  | .key before | .colon before _ => ∀ f ∈ before, IsReadable f.2
  | .after v => IsReadable v

/-- Whether all values that the reader holds are readable. -/
structure Cursor.Sound (k : Cursor) : Prop where
  frames : ∀ frame ∈ k.frames, frame.Sound
  phase : k.phase.Sound

section

variable {frames : List Frame} {phase : Phase} {c : Char} {tail : List Char} {k : Cursor}

/-- A value is taken from a text, so that a text says it. -/
theorem sound_of_stepValue (hf : ∀ frame ∈ frames, frame.Sound)
    (h : stepValue frames c tail = .ok k) : k.Sound := by
  unfold stepValue at h
  split at h
  · split at h
    · cases h
    · cases h
      exact ⟨hf, .str _, rfl⟩
  · split at h
    · cases h
      exact ⟨hf, trivial⟩
    · split at h
      · cases h
        exact ⟨hf, trivial⟩
      · split at h
        · next hv =>
          split at h
          · next hr =>
            cases h
            exact ⟨hf, isReadable_of_readPlain? hv hr⟩
          · cases h
        · cases h

theorem sound_of_stepKey {before : Fields} (hf : ∀ frame ∈ frames, frame.Sound)
    (hbefore : ∀ f ∈ before, IsReadable f.2) (h : stepKey frames before c tail = .ok k) :
    k.Sound := by
  unfold stepKey at h
  split at h
  · split at h
    · cases h
    · cases h
      exact ⟨hf, hbefore⟩
  · cases h

/-- What ends an array or an object makes one of values that a text says. -/
theorem sound_of_stepAfter {frame : Frame} (hframe : frame.Sound)
    (hf : ∀ frame ∈ frames, frame.Sound) (hv : IsReadable v)
    (h : stepAfter v frame frames c tail = .ok k) : k.Sound := by
  cases frame with
  | array before =>
    have hall : ∀ x ∈ v :: before, IsReadable x := List.forall_mem_cons.2 ⟨hv, hframe⟩
    unfold stepAfter at h
    dsimp only at h
    split at h
    · cases h
      exact ⟨hf, isReadable_arr_iff.2 fun x hx => hall x (List.mem_reverse.1 hx)⟩
    · split at h
      · cases h
        exact ⟨List.forall_mem_cons.2 ⟨hall, hf⟩, trivial⟩
      · cases h
  | object before key =>
    have hall : ∀ f ∈ (key, v) :: before, IsReadable f.2 := List.forall_mem_cons.2 ⟨hv, hframe⟩
    unfold stepAfter at h
    dsimp only at h
    split at h
    · cases h
      exact ⟨hf, isReadable_ofFields fun f hm => hall f (List.mem_reverse.1 hm)⟩
    · split at h
      · cases h
        exact ⟨hf, hall⟩
      · cases h

/-- Every step keeps the frames and the phase sound. -/
theorem sound_of_stepChar (hf : ∀ frame ∈ frames, frame.Sound) (hp : phase.Sound)
    (h : stepChar frames phase c tail = .ok k) : k.Sound := by
  unfold stepChar at h
  cases phase with
  | value => exact sound_of_stepValue hf h
  | firstItem =>
    dsimp only at h
    split at h
    · cases h
      exact ⟨hf, isReadable_arr_iff.2 (List.forall_mem_nil _)⟩
    · have hempty : (Frame.array []).Sound := List.forall_mem_nil _
      exact sound_of_stepValue (List.forall_mem_cons.2 ⟨hempty, hf⟩) h
  | firstKey =>
    dsimp only at h
    split at h
    · cases h
      exact ⟨hf, isReadable_obj_iff.2 ⟨List.nodup_nil, List.forall_mem_nil _⟩⟩
    · exact sound_of_stepKey hf (List.forall_mem_nil _) h
  | key before => exact sound_of_stepKey hf hp h
  | colon before key =>
    dsimp only at h
    split at h
    · cases h
      exact ⟨List.forall_mem_cons.2 ⟨hp, hf⟩, trivial⟩
    · cases h
  | after v =>
    cases frames with
    | nil => cases h
    | cons frame outer =>
      obtain ⟨hframe, houter⟩ := List.forall_mem_cons.1 hf
      exact sound_of_stepAfter hframe houter hp h

/-- One step keeps the values that the reader holds readable. -/
theorem sound_of_step (hf : ∀ frame ∈ frames, frame.Sound) (hp : phase.Sound)
    (h : step frames phase s = .ok (.more k)) : k.Sound := by
  unfold step at h
  split at h
  · split at h <;> cases h
  · split at h
    · cases h
    · next hk =>
      cases h
      exact sound_of_stepChar hf hp hk

theorem step_eq_done (h : step frames phase s = .ok (.done v)) : phase = .after v := by
  unfold step at h
  split at h
  · split at h <;> cases h
    rfl
  · split at h <;> cases h

/-- What comes out at the end can be read back, whatever the text says. -/
theorem isReadable_of_readFrom (hf : ∀ frame ∈ frames, frame.Sound) (hp : phase.Sound)
    (h : readFrom frames phase s = .ok v) : IsReadable v := by
  fun_induction readFrom frames phase s with
  | case1 => cases h
  | case2 frames phase s w hstep =>
    cases h
    rw [step_eq_done hstep] at hp
    exact hp
  | case3 frames phase s k hstep ih =>
    have hk := sound_of_step hf hp hstep
    exact ih hk.frames hk.phase h

end

/-- **What is read is well-formed, and can be written again.** -/
theorem isReadable_of_read (h : read s = .ok v) : IsReadable v := by
  unfold read at h
  split at h
  · cases h
  · have hvalue : Phase.value.Sound := trivial
    exact isReadable_of_readFrom (List.forall_mem_nil _) hvalue h

/-- The readable values are just those that some text says. -/
theorem isReadable_iff_exists_read : IsReadable v ↔ ∃ s, read s = .ok v :=
  ⟨fun h => ⟨_, read_writeLine h⟩, fun ⟨_, h⟩ => isReadable_of_read h⟩

end MovePlan.Json
