import MovePlan.Proofs.Json.Fields
import MovePlan.Proofs.Json.Number
import MovePlan.Proofs.Json.Units

/-!
# Values that are written and read back

The reader keeps what is open on a stack. Before a written value it goes on to the state after that
value, with the same stack and with what follows the value left to read (`Reads`); items and fields
are put together from this one by one. A whole text has nothing around its value, so that the value
is what is read (`read_writeLine`).

The values that can be read back are the well-formed ones with a text: no key of an object occurs
twice, floating-point numbers are those of the format, and no integer has too many digits
(`IsReadable`).
-/

namespace MovePlan.Json

open Numeric Text

/-- Whether a value can stand for what a text says: the keys of each object are distinct, and its
floating-point numbers are ones of the format. -/
inductive WellFormed : Json → Prop where
  | null : WellFormed null
  | bool (b : Bool) : WellFormed (bool b)
  | int (n : Int) : WellFormed (int n)
  | float {x : Binary64} (proper : x.IsProper) : WellFormed (float x)
  | str (s : String) : WellFormed (str s)
  | arr {xs : List Json} (items : ∀ x ∈ xs, WellFormed x) : WellFormed (arr xs)
  | obj {fs : Fields} (nodup : (fs.map Prod.fst).Nodup) (values : ∀ f ∈ fs, WellFormed f.2) :
    WellFormed (obj fs)

/-- Whether a value is what some text says. -/
structure IsReadable (v : Json) : Prop where
  wellFormed : v.WellFormed
  /-- Each of its integers has a text. -/
  writable : v.isWritable = true

variable {v : Json} {s rest : List Char} {frames : List Frame} {phase : Phase}

/-! ## Steps of the reader -/

/-- Reading goes on at the first character that is no gap. -/
theorem skipGap_cons {c : Char} (h : isGap c = false) (s : List Char) : skipGap (c :: s) = c :: s := by
  rw [skipGap, List.dropWhile_cons_of_neg (by simp [h])]

/-- One step of the reader, and then the rest. -/
theorem readFrom_eq (frames : List Frame) (phase : Phase) (s : List Char) :
    readFrom frames phase s =
      match step frames phase (skipGap s) with
      | .error f => .error f
      | .ok (.done v) => .ok v
      | .ok (.more k) => readFrom k.frames k.phase k.rest := by
  rw [readFrom]
  split <;> next h => rw [h]

/-- A character that is no gap is read at once. -/
theorem readFrom_cons {c : Char} {tail : List Char} {k : Cursor} (hc : isGap c = false)
    (h : stepChar frames phase c tail = .ok k) :
    readFrom frames phase (c :: tail) = readFrom k.frames k.phase k.rest := by
  rw [readFrom_eq, skipGap_cons hc, step, h]

/-- A blank is passed over. -/
theorem readFrom_space : readFrom frames phase (' ' :: s) = readFrom frames phase s := by
  have hskip : skipGap (' ' :: s) = skipGap s := by
    rw [skipGap, skipGap, List.dropWhile_cons_of_pos (by decide)]
  rw [readFrom_eq, hskip, ← readFrom_eq]

/-- What is true of a value that is read back, wherever in a text it stands. -/
structure Reads (v : Json) : Prop where
  /-- Its text begins with a character that is no blank and ends nothing. -/
  starts : ∃ c tail, writeLine v = c :: tail ∧ isGap c = false ∧ c ≠ ']' ∧ c ≠ '\uFEFF'
  /-- Before its text, the reader goes on to what follows it. -/
  goesOn : ∀ frames rest, Follows rest →
    readFrom frames .value (writeLine v ++ rest) = readFrom frames (.after v) rest

theorem writeLine_str (k : String) : writeLine (.str k) = writeString k := rfl

theorem writeLine_arr (xs : List Json) :
    writeLine (.arr xs) = '[' :: writeLineItems xs ++ [']'] := rfl

theorem writeLine_obj (fs : Fields) :
    writeLine (.obj fs) = '\x7b' :: writeLineFields fs ++ ['\x7d'] := rfl

/-! ## Plain values and strings -/

/-- Numbers and words begin with characters of their own. -/
theorem readPlain?_cons {c : Char} {tail : List Char} {r : Json × List Char}
    (h : readPlain? (c :: tail) = some r) :
    isGap c = false ∧ c ≠ ']' ∧ c ≠ '\uFEFF' ∧ c ≠ '"' ∧ c ≠ '[' ∧ c ≠ '\x7b' := by
  have hnone : ∀ c ∈ [' ', '\t', '\n', '\r', ']', '\uFEFF', '"', '[', '\x7b'],
      readPlain? (c :: tail) = none := by
    simp [readPlain?, readWord?, words, after?, readNumber?, readMagnitude?, takeWhole]
  have hne : c ∉ [' ', '\t', '\n', '\r', ']', '\uFEFF', '"', '[', '\x7b'] := by
    intro hc
    rw [hnone c hc] at h
    cases h
  simp only [List.mem_cons, List.not_mem_nil, or_false, not_or] at hne
  obtain ⟨h1, h2, h3, h4, hrest⟩ := hne
  exact ⟨by simp [isGap, h1, h2, h3, h4], hrest⟩

/-- A value that can be written has no surplus of digits. -/
theorem surplus?_eq_none (h : v.isWritable = true) : surplus? v = none := by
  cases v with
  | int n => exact if_pos h
  | _ => rfl

/-- A number or a word is taken in one step. -/
theorem reads_of_readPlain? (hv : v.isWritable = true)
    (h : ∀ rest, Follows rest → readPlain? (writeLine v ++ rest) = some (v, rest)) : Reads v := by
  obtain ⟨c, tail, hc⟩ : ∃ c tail, writeLine v = c :: tail := by
    refine List.exists_cons_of_ne_nil fun hnil => ?_
    have hread := h [] (by simp [Follows])
    rw [hnil] at hread
    cases hread
  rw [hc] at h
  obtain ⟨hgap, hend, hmark, hquote, harr, hobj⟩ := readPlain?_cons (h [] (by simp [Follows]))
  refine ⟨⟨c, tail, hc, hgap, hend, hmark⟩, fun frames rest hrest => ?_⟩
  have hstep : stepChar frames .value c (tail ++ rest) = .ok ⟨frames, .after v, rest⟩ := by
    rw [stepChar, stepValue, if_neg hquote, if_neg harr, if_neg hobj, ← List.cons_append,
      h rest hrest]
    simp only [surplus?_eq_none hv]
  rw [hc, List.cons_append, readFrom_cons hgap hstep]

/-- A written text ends with the quote before what follows it. -/
theorem writeString_append (k : String) (rest : List Char) :
    writeString k ++ rest = '"' :: (k.toList.flatMap writeChar ++ '"' :: rest) := by
  simp [writeString]

/-- A text is read back, with anything behind it. -/
theorem reads_str (k : String) : Reads (.str k) where
  starts := ⟨'"', _, rfl, rfl, by decide, by decide⟩
  goesOn frames rest _ := by
    have hstep : stepChar frames .value '"' (k.toList.flatMap writeChar ++ '"' :: rest) =
        .ok ⟨frames, .after (.str k), rest⟩ := by
      rw [stepChar, stepValue, if_pos rfl, readString_flatMap]
    rw [writeLine_str, writeString_append, readFrom_cons rfl hstep]

/-- A key is taken together with the colon and the blank after it. -/
theorem readFrom_key (before : Fields) (k : String) (rest : List Char) :
    readFrom frames (.key before) (writeString k ++ ':' :: ' ' :: rest) =
      readFrom (.object before k :: frames) .value rest := by
  have hkey : stepChar frames (.key before) '"' (k.toList.flatMap writeChar ++ '"' :: ':' :: ' ' :: rest) =
      .ok ⟨frames, .colon before k, ':' :: ' ' :: rest⟩ := by
    rw [stepChar, stepKey, if_pos rfl, readString_flatMap]
  have hcolon : stepChar frames (.colon before k) ':' (' ' :: rest) =
      .ok ⟨.object before k :: frames, .value, ' ' :: rest⟩ := by
    rw [stepChar, if_pos rfl]
  rw [writeString_append, readFrom_cons rfl hkey, readFrom_cons rfl hcolon, readFrom_space]

/-! ## Arrays and objects -/

/-- A comma in a list asks for the next member. -/
theorem readFrom_comma_array (before : List Json) (v : Json) (rest : List Char) :
    readFrom (.array before :: frames) (.after v) (',' :: ' ' :: rest) =
      readFrom (.array (v :: before) :: frames) .value rest := by
  have hstep : stepChar (.array before :: frames) (.after v) ',' (' ' :: rest) =
      .ok ⟨.array (v :: before) :: frames, .value, ' ' :: rest⟩ := by
    simp [stepChar, stepAfter]
  rw [readFrom_cons rfl hstep, readFrom_space]

/-- The bracket ends the list, whose members were held back to front. -/
theorem readFrom_end_array (before : List Json) (v : Json) (rest : List Char) :
    readFrom (.array before :: frames) (.after v) (']' :: rest) =
      readFrom frames (.after (.arr (v :: before).reverse)) rest := by
  have hstep : stepChar (.array before :: frames) (.after v) ']' rest =
      .ok ⟨frames, .after (.arr (v :: before).reverse), rest⟩ := by
    simp [stepChar, stepAfter]
  rw [readFrom_cons rfl hstep]

/-- A comma in an object asks for the next key. -/
theorem readFrom_comma_object (before : Fields) (key : String) (v : Json) (rest : List Char) :
    readFrom (.object before key :: frames) (.after v) (',' :: ' ' :: rest) =
      readFrom frames (.key ((key, v) :: before)) rest := by
  have hstep : stepChar (.object before key :: frames) (.after v) ',' (' ' :: rest) =
      .ok ⟨frames, .key ((key, v) :: before), ' ' :: rest⟩ := by
    simp [stepChar, stepAfter]
  rw [readFrom_cons rfl hstep, readFrom_space]

theorem readFrom_end_object (before : Fields) (key : String) (v : Json) (rest : List Char) :
    readFrom (.object before key :: frames) (.after v) ('\x7d' :: rest) =
      readFrom frames (.after (.obj (ofFields ((key, v) :: before).reverse))) rest := by
  have hstep : stepChar (.object before key :: frames) (.after v) '\x7d' rest =
      .ok ⟨frames, .after (.obj (ofFields ((key, v) :: before).reverse)), rest⟩ := by
    simp [stepChar, stepAfter]
  rw [readFrom_cons rfl hstep]

/-- Items that are read one by one are added to those before them. -/
theorem readFrom_writeLineItems {x : Json} {xs : List Json} (h : ∀ y ∈ x :: xs, Reads y)
    (before : List Json) (rest : List Char) :
    readFrom (.array before :: frames) .value (writeLineItems (x :: xs) ++ ']' :: rest) =
      readFrom frames (.after (.arr (before.reverse ++ x :: xs))) rest := by
  induction xs generalizing x before with
  | nil =>
    rw [writeLineItems, (h x List.mem_cons_self).goesOn _ _ (by simp [Follows]), readFrom_end_array,
      List.reverse_cons]
  | cons y ys ih =>
    obtain ⟨hx, hys⟩ := List.forall_mem_cons.1 h
    rw [writeLineItems, List.append_assoc, List.cons_append, List.cons_append,
      hx.goesOn _ _ (by simp [Follows]), readFrom_comma_array, ih hys, List.reverse_cons,
      List.append_assoc, List.singleton_append]
    exact List.cons_ne_nil y ys

/-- Fields that are read one by one are added to those before them. -/
theorem readFrom_writeLineFields {f : String × Json} {fs : Fields}
    (h : ∀ g ∈ f :: fs, Reads g.2) (before : Fields) (rest : List Char) :
    readFrom frames (.key before) (writeLineFields (f :: fs) ++ '\x7d' :: rest) =
      readFrom frames (.after (.obj (ofFields (before.reverse ++ f :: fs)))) rest := by
  induction fs generalizing f before with
  | nil =>
    obtain ⟨k, v⟩ := f
    rw [writeLineFields, List.append_assoc, List.cons_append, List.cons_append, readFrom_key,
      (h _ List.mem_cons_self).goesOn _ _ (by simp [Follows]), readFrom_end_object, List.reverse_cons]
  | cons g gs ih =>
    obtain ⟨k, v⟩ := f
    obtain ⟨hv, hgs⟩ := List.forall_mem_cons.1 h
    have htext : writeLineFields ((k, v) :: g :: gs) ++ '\x7d' :: rest =
        writeString k ++ ':' :: ' ' :: (writeLine v ++ ',' :: ' ' ::
          (writeLineFields (g :: gs) ++ '\x7d' :: rest)) := by
      simp [writeLineFields]
    rw [htext, readFrom_key, hv.goesOn _ _ (by simp [Follows]), readFrom_comma_object, ih hgs,
      List.reverse_cons, List.append_assoc, List.singleton_append]

/-- The first item of an array is read like any other. -/
theorem readFrom_firstItem {c : Char} (hgap : isGap c = false) (hend : c ≠ ']') (s : List Char) :
    readFrom frames .firstItem (c :: s) = readFrom (.array [] :: frames) .value (c :: s) := by
  rw [readFrom_eq, readFrom_eq]
  simp [skipGap_cons hgap, step, stepChar, hend]

/-- The first key of an object is read like any other. -/
theorem readFrom_firstKey (s : List Char) :
    readFrom frames .firstKey ('"' :: s) = readFrom frames (.key []) ('"' :: s) := by
  rw [readFrom_eq, readFrom_eq]
  simp [skipGap_cons (show isGap '"' = false from rfl), step, stepChar]

theorem exists_writeLineItems_eq (x : Json) (xs : List Json) :
    ∃ tail, writeLineItems (x :: xs) = writeLine x ++ tail := by
  cases xs with
  | nil => exact ⟨[], by rw [writeLineItems, List.append_nil]⟩
  | cons y ys => exact ⟨_, by rw [writeLineItems]; exact List.cons_ne_nil y ys⟩

theorem exists_writeLineFields_eq (f : String × Json) (fs : Fields) :
    ∃ tail, writeLineFields (f :: fs) = '"' :: tail := by
  obtain ⟨k, v⟩ := f
  cases fs with
  | nil => exact ⟨_, by rw [writeLineFields, writeString_append]⟩
  | cons g gs => exact ⟨_, by simp [writeLineFields, writeString]; rfl⟩

/-- A list is read back if its members are. -/
theorem reads_arr {xs : List Json} (h : ∀ x ∈ xs, Reads x) : Reads (.arr xs) where
  starts := ⟨'[', _, rfl, rfl, by decide, by decide⟩
  goesOn frames rest _ := by
    have hopen : ∀ s, stepChar frames .value '[' s = .ok ⟨frames, .firstItem, s⟩ := fun s => by
      simp [stepChar, stepValue]
    have htext : writeLine (.arr xs) ++ rest = '[' :: (writeLineItems xs ++ ']' :: rest) := by
      simp [writeLine_arr]
    rw [htext, readFrom_cons rfl (hopen _)]
    cases xs with
    | nil =>
      have hclose : stepChar frames .firstItem ']' rest = .ok ⟨frames, .after (.arr []), rest⟩ := by
        simp [stepChar]
      exact readFrom_cons rfl hclose
    | cons x xs =>
      obtain ⟨c, tail, hc, hgap, hend, -⟩ := (h x List.mem_cons_self).starts
      obtain ⟨more, hmore⟩ := exists_writeLineItems_eq x xs
      have hread : readFrom (.array [] :: frames) .value _ = _ := readFrom_writeLineItems h [] rest
      rw [hmore, hc, List.cons_append, List.cons_append] at hread ⊢
      exact (readFrom_firstItem hgap hend _).trans hread

/-- A new key is put at the end. -/
theorem setField_of_not_mem {key : String} {fs : Fields} (h : key ∉ fs.map Prod.fst) (v : Json) :
    setField key v fs = fs ++ [(key, v)] := by
  induction fs with
  | nil => rfl
  | cons f fs ih =>
    rw [List.map_cons, List.mem_cons, not_or] at h
    rw [setField, if_neg (Ne.symm h.1), ih h.2, List.cons_append]

/-- Fields with distinct keys are an object's. -/
theorem ofFields_eq_self {fs : Fields} (h : (fs.map Prod.fst).Nodup) : ofFields fs = fs := by
  have hfold : ∀ acc : Fields, ((acc ++ fs).map Prod.fst).Nodup →
      fs.foldl (fun acc f => setField f.1 f.2 acc) acc = acc ++ fs := by
    clear h
    induction fs with
    | nil => exact fun acc _ => (List.append_nil acc).symm
    | cons f fs ih =>
      intro acc hnodup
      have hf : f.1 ∉ acc.map Prod.fst := by
        rw [List.map_append, List.nodup_append] at hnodup
        exact fun hmem => hnodup.2.2 _ hmem _ List.mem_cons_self rfl
      rw [List.foldl_cons, setField_of_not_mem hf, ih _ (by simpa using hnodup),
        List.append_assoc, List.singleton_append]
  exact hfold [] h

/-- An object is read back if its keys are distinct and its values are read back. -/
theorem reads_obj {fs : Fields} (hkeys : (fs.map Prod.fst).Nodup) (h : ∀ f ∈ fs, Reads f.2) :
    Reads (.obj fs) where
  starts := ⟨'\x7b', _, rfl, rfl, by decide, by decide⟩
  goesOn frames rest _ := by
    have hopen : ∀ s, stepChar frames .value '\x7b' s = .ok ⟨frames, .firstKey, s⟩ := fun s => by
      simp [stepChar, stepValue]
    have htext : writeLine (.obj fs) ++ rest = '\x7b' :: (writeLineFields fs ++ '\x7d' :: rest) := by
      simp [writeLine_obj]
    rw [htext, readFrom_cons rfl (hopen _)]
    cases fs with
    | nil =>
      have hclose : stepChar frames .firstKey '\x7d' rest = .ok ⟨frames, .after (.obj []), rest⟩ := by
        simp [stepChar]
      exact readFrom_cons rfl hclose
    | cons f fs =>
      obtain ⟨tail, htail⟩ := exists_writeLineFields_eq f fs
      have hread : readFrom frames (.key []) _ = _ := readFrom_writeLineFields h [] rest
      rw [List.reverse_nil, List.nil_append, ofFields_eq_self hkeys, htail, List.cons_append]
        at hread
      rw [htail, List.cons_append]
      exact (readFrom_firstKey _).trans hread

/-! ## Whole texts -/

/-- Every readable value is read back. -/
theorem reads_of_isReadable (h : IsReadable v) : Reads v := by
  obtain ⟨hwell, hv⟩ := h
  induction hwell with
  | null => exact reads_of_readPlain? hv fun rest _ => rfl
  | bool b => cases b <;> exact reads_of_readPlain? hv fun rest _ => rfl
  | int n => exact reads_of_readPlain? hv fun rest hrest => readPlain?_intText n hrest
  | float hx => exact reads_of_readPlain? hv fun rest hrest => readPlain?_writeFloat hx hrest
  | str s => exact reads_str s
  | arr _ ih => exact reads_arr fun x hx => ih x hx (isWritable_arr.1 hv x hx)
  | obj hkeys _ ih => exact reads_obj hkeys fun f hf => ih f hf (isWritable_obj.1 hv f hf)

theorem readFrom_writeLine (h : IsReadable v) : readFrom [] .value (writeLine v) = .ok v := by
  have hdone := (reads_of_isReadable h).goesOn [] [] (by simp [Follows])
  rw [List.append_nil] at hdone
  rw [hdone, readFrom_eq]
  rfl

/-- **A written value is read back.** -/
theorem read_writeLine (h : IsReadable v) : read (writeLine v) = .ok v := by
  obtain ⟨c, tail, hc, -, -, hmark⟩ := (reads_of_isReadable h).starts
  have hread : read (writeLine v) = readFrom [] .value (writeLine v) := by
    rw [hc]
    unfold read
    split
    · next heq => exact absurd (List.cons.inj heq).1 hmark
    · rfl
  rw [hread, readFrom_writeLine h]

/-! ## Sorted keys -/

theorem sortedItems_eq_map (xs : List Json) : sortedItems xs = xs.map sorted := by
  induction xs with
  | nil => rw [sortedItems, List.map_nil]
  | cons x xs ih => rw [sortedItems, ih, List.map_cons]

theorem sortedFields_eq_map (fs : Fields) : sortedFields fs = fs.map fun f => (f.1, f.2.sorted) := by
  induction fs with
  | nil => rw [sortedFields, List.map_nil]
  | cons f fs ih => rw [sortedFields, ih, List.map_cons]

/-- Sorting moves fields about and drops none. -/
theorem insertSorted_perm (f : String × Json) (fs : Fields) :
    (insertSorted f fs).Perm (f :: fs) := by
  induction fs with
  | nil => exact .refl _
  | cons g fs ih =>
    rw [insertSorted]
    split
    · exact .refl _
    · exact (ih.cons g).trans (.swap f g fs)

theorem sortFields_perm (fs : Fields) : (sortFields fs).Perm fs := by
  induction fs with
  | nil => exact .refl _
  | cons f fs ih => exact (insertSorted_perm f _).trans (ih.cons f)

/-- Two values that are the same but for the order of the fields of objects. -/
inductive SameValue : Json → Json → Prop where
  | refl (v : Json) : SameValue v v
  | arr {xs ys : List Json} (length_eq : xs.length = ys.length)
    (items : ∀ (i : Nat) x y, xs[i]? = some x → ys[i]? = some y → SameValue x y) :
    SameValue (arr xs) (arr ys)
  | obj {fs gs : Fields} (keys : ∀ key, (field? key fs).isSome = (field? key gs).isSome)
    (values : ∀ key x y, field? key fs = some x → field? key gs = some y → SameValue x y) :
    SameValue (obj fs) (obj gs)

/-- With distinct keys, the field of a key is the one member with this key. -/
theorem field?_eq_some_iff_mem {fs : Fields} (h : (fs.map Prod.fst).Nodup) {key : String} :
    field? key fs = some v ↔ (key, v) ∈ fs := by
  induction fs with
  | nil => simp [field?]
  | cons f fs ih =>
    obtain ⟨k, w⟩ := f
    obtain ⟨hk, hnodup⟩ := List.nodup_cons.1 h
    rw [field?, List.mem_cons, Prod.mk.injEq]
    split
    · next heq =>
      subst heq
      have hnot : (k, v) ∉ fs := fun hmem => hk (List.mem_map.2 ⟨(k, v), hmem, rfl⟩)
      simp [hnot, eq_comm]
    · next hne =>
      rw [ih hnodup]
      simp [Ne.symm hne]

theorem keys_sortFields_perm (fs : Fields) :
    ((sortFields (sortedFields fs)).map Prod.fst).Perm (fs.map Prod.fst) := by
  have hkeys : (sortedFields fs).map Prod.fst = fs.map Prod.fst := by
    rw [sortedFields_eq_map, List.map_map]
    rfl
  exact hkeys ▸ (sortFields_perm _).map Prod.fst

theorem mem_sortFields_iff {fs : Fields} {g : String × Json} :
    g ∈ sortFields (sortedFields fs) ↔ ∃ f ∈ fs, (f.1, f.2.sorted) = g := by
  rw [(sortFields_perm _).mem_iff, sortedFields_eq_map, List.mem_map]

theorem wellFormed_sorted (h : WellFormed v) : WellFormed v.sorted := by
  induction h with
  | arr _ ih =>
    rw [sorted, sortedItems_eq_map]
    exact .arr (List.forall_mem_map.2 ih)
  | obj hkeys _ ih =>
    rw [sorted]
    refine .obj ((keys_sortFields_perm _).nodup_iff.2 hkeys) fun g hg => ?_
    obtain ⟨f, hf, rfl⟩ := mem_sortFields_iff.1 hg
    exact ih f hf
  | null => exact .null
  | bool b => exact .bool b
  | int n => exact .int n
  | float hx => exact .float hx
  | str s => exact .str s

/-- The order of keys does not matter for whether a value can be written. -/
theorem isWritable_sorted (h : WellFormed v) : v.sorted.isWritable = v.isWritable := by
  induction h with
  | arr _ ih =>
    rw [sorted, sortedItems_eq_map, Bool.eq_iff_iff, isWritable_arr, isWritable_arr,
      List.forall_mem_map]
    exact forall₂_congr fun x hx => by rw [ih x hx]
  | @obj fs _ _ ih =>
    rw [sorted, Bool.eq_iff_iff, isWritable_obj, isWritable_obj]
    constructor
    · intro h f hf
      rw [← ih f hf]
      exact h _ (mem_sortFields_iff.2 ⟨f, hf, rfl⟩)
    · intro h g hg
      obtain ⟨f, hf, rfl⟩ := mem_sortFields_iff.1 hg
      rw [ih f hf]
      exact h f hf
  | _ => rfl

/-- Sorting the keys keeps a value readable. -/
theorem IsReadable.sorted (h : IsReadable v) : IsReadable v.sorted :=
  ⟨wellFormed_sorted h.wellFormed, by rw [isWritable_sorted h.wellFormed, h.writable]⟩

/-- A value with its keys sorted is the same value. -/
theorem sameValue_sorted (h : WellFormed v) : SameValue v v.sorted := by
  induction h with
  | arr _ ih =>
    rw [sorted, sortedItems_eq_map]
    refine .arr (List.length_map _).symm fun i x y hx hy => ?_
    rw [List.getElem?_map, hx] at hy
    cases hy
    exact ih x (List.mem_of_getElem? hx)
  | @obj fs hkeys _ ih =>
    rw [sorted]
    have hsorted := (keys_sortFields_perm fs).nodup_iff.2 hkeys
    refine .obj (fun key => ?_) fun key x y hx hy => ?_
    · rw [Bool.eq_iff_iff, Option.isSome_iff_exists, Option.isSome_iff_exists]
      simp only [field?_eq_some_iff_mem hkeys, field?_eq_some_iff_mem hsorted, mem_sortFields_iff]
      constructor
      · exact fun ⟨x, hx⟩ => ⟨_, _, hx, rfl⟩
      · rintro ⟨y, ⟨k, x⟩, hx, heq⟩
        cases heq
        exact ⟨x, hx⟩
    · rw [field?_eq_some_iff_mem hkeys] at hx
      rw [field?_eq_some_iff_mem hsorted, mem_sortFields_iff] at hy
      obtain ⟨⟨k, x'⟩, hx', heq⟩ := hy
      cases heq
      have hsame : some x = some x' :=
        ((field?_eq_some_iff_mem hkeys).2 hx).symm.trans ((field?_eq_some_iff_mem hkeys).2 hx')
      cases hsame
      exact ih _ hx
  | null => exact .refl _
  | bool b => exact .refl _
  | int n => exact .refl _
  | float hx => exact .refl _
  | str s => exact .refl _

/-- **A row is read back as the same value**, its keys in order. -/
theorem read_line (h : IsReadable v) : ∃ w, read v.line.toList = .ok w ∧ SameValue v w :=
  ⟨v.sorted, by rw [line, String.toList_ofList, read_writeLine h.sorted],
    sameValue_sorted h.wellFormed⟩

end MovePlan.Json
