import MovePlan.Json.Basic
import MovePlan.Text.Digit

/-!
# Reading JSON

One pass over the text with a stack of the arrays and objects that are open. What has to come next
is the `Phase`; each step takes at least one character, which is why the reader ends. Beyond the
standard the reader takes `NaN`, `Infinity` and `-Infinity` as numbers; control characters inside
strings are refused, as are integers with too many digits, and of repeated keys the last counts.

A fault names what is wrong and holds the text from the place of the fault on; its position is the
number of characters before that.
-/

namespace MovePlan.Json

open Numeric Text

/-- What can be wrong with a JSON text. -/
inductive FaultKind where
  | byteOrderMark
  | value
  | key
  | colon
  | comma
  | extra
  | unterminated
  | control
  | escape
  | hexEscape
  /-- An integer with more digits than are read. -/
  | longInteger (digits : Nat)
  deriving DecidableEq, Repr

/-- A fault and the text from it on. -/
structure Fault where
  kind : FaultKind
  rest : List Char

def FaultKind.message : FaultKind → String
  | byteOrderMark => "Unexpected UTF-8 BOM (decode using utf-8-sig)"
  | value => "Expecting value"
  | key => "Expecting property name enclosed in double quotes"
  | colon => "Expecting ':' delimiter"
  | comma => "Expecting ',' delimiter"
  | extra => "Extra data"
  | unterminated => "Unterminated string starting at"
  | control => "Invalid control character at"
  | escape => "Invalid \\escape"
  | hexEscape => "Invalid \\uXXXX escape"
  | longInteger digits => Numeric.overLimit s!": value has {digits} digits"

/-! ## Blanks -/

/-- White space between the parts of a JSON text. -/
def isGap (c : Char) : Bool := c == ' ' || c == '\t' || c == '\n' || c == '\r'

def skipGap (s : List Char) : List Char := s.dropWhile isGap

/-! ## Strings -/

/-- The character that a short escape stands for. -/
def shortEscape? (c : Char) : Option Char :=
  if c = '"' then some '"'
  else if c = '\\' then some '\\'
  else if c = '/' then some '/'
  else if c = 'b' then some '\x08'
  else if c = 'f' then some '\x0c'
  else if c = 'n' then some '\n'
  else if c = 'r' then some '\r'
  else if c = 't' then some '\t'
  else none

/-- Four digits of base sixteen. -/
def hexFour? (a b c d : Char) : Option Nat := do
  let a ← hexValue? a
  let b ← hexValue? b
  let c ← hexValue? c
  let d ← hexValue? d
  some (((a * 16 + b) * 16 + c) * 16 + d)

/-- The code units of a string after its opening quote, and the text after its closing quote. A
missing closing quote is a fault of the whole string `start`. -/
def readUnits (start : List Char) : List Char → Except Fault (List Nat × List Char)
  | [] => .error ⟨.unterminated, start⟩
  | c :: rest =>
    if c = '"' then .ok ([], rest)
    else if c = '\\' then
      match rest with
      | [] => .error ⟨.unterminated, start⟩
      | e :: more =>
        if e = 'u' then
          match more with
          | h1 :: h2 :: h3 :: h4 :: next :: tail =>
            match hexFour? h1 h2 h3 h4 with
            | some n => (readUnits start (next :: tail)).map fun r => (n :: r.1, r.2)
            | none => .error ⟨.hexEscape, rest⟩
          | _ => .error ⟨.hexEscape, rest⟩
        else
          match shortEscape? e with
          | some x => (readUnits start more).map fun r => (x.toNat :: r.1, r.2)
          | none => .error ⟨.escape, c :: rest⟩
    else if c.toNat < 0x20 then .error ⟨.control, c :: rest⟩
    else (readUnits start rest).map fun r => (c.toNat :: r.1, r.2)

/-- Joins the halves of a pair of surrogates. A half without its partner has no character and
becomes the replacement character. -/
def joinUnits : List Nat → List Char
  | [] => []
  | [n] => [if 0xD800 ≤ n ∧ n ≤ 0xDFFF then '\uFFFD' else Char.ofNat n]
  | hi :: lo :: rest =>
    if 0xD800 ≤ hi ∧ hi ≤ 0xDBFF ∧ 0xDC00 ≤ lo ∧ lo ≤ 0xDFFF then
      Char.ofNat (0x10000 + (hi - 0xD800) * 0x400 + (lo - 0xDC00)) :: joinUnits rest
    else
      (if 0xD800 ≤ hi ∧ hi ≤ 0xDFFF then '\uFFFD' else Char.ofNat hi) :: joinUnits (lo :: rest)

/-- A string after its opening quote, which is the first character of `start`. -/
def readString (start s : List Char) : Except Fault (String × List Char) :=
  (readUnits start s).map fun r => (String.ofList (joinUnits r.1), r.2)

/-- What a reader leaves does not change with what is made of what it took. -/
theorem length_of_map_ok {α β : Type} {x : Except Fault (α × List Char)}
    {f : α → β} {r : β × List Char} (h : x.map (fun q => (f q.1, q.2)) = .ok r) :
    ∃ q, x = .ok q ∧ q.2 = r.2 := by
  cases x with
  | error e => simp [Except.map] at h
  | ok q => simp only [Except.map, Except.ok.injEq] at h; exact ⟨q, rfl, by rw [← h]⟩

/-- A string takes at least its closing quote. -/
theorem readUnits_length (start : List Char) (s : List Char) (r : List Nat × List Char)
    (h : readUnits start s = .ok r) : r.2.length < s.length := by
  match s with
  | [] => cases h
  | c :: rest =>
    -- wherever reading goes on, one unit is put in front of what the rest gives
    have later : ∀ {unit : Nat} {s' : List Char}, s'.length ≤ rest.length →
        (readUnits start s').map (fun q => (unit :: q.1, q.2)) = .ok r →
        r.2.length < (c :: rest).length := by
      intro unit s' hle hread
      obtain ⟨q, hq, hleft⟩ := length_of_map_ok hread
      have hlt := readUnits_length start s' q hq
      rw [← hleft, List.length_cons]
      omega
    rw [readUnits.eq_def] at h
    dsimp only at h
    split at h
    · obtain rfl := Except.ok.inj h
      exact Nat.lt_succ_self _
    split at h
    · split at h
      · cases h
      split at h
      · split at h
        · split at h
          · exact later (by simp) h
          · cases h
        · cases h
      · split at h
        · exact later (by simp) h
        · cases h
    split at h
    · cases h
    · exact later (Nat.le_refl _) h
termination_by s.length

theorem readString_length {start s : List Char} {r : String × List Char}
    (h : readString start s = .ok r) : r.2.length < s.length := by
  unfold readString at h
  cases hr : readUnits start s with
  | error f => simp [hr, Except.map] at h
  | ok q => simp [hr, Except.map] at h; subst h; exact readUnits_length start s q hr

/-! ## Numbers and words -/

/-- The digits after a point, if there is one followed by a digit. -/
def takeFraction (s : List Char) : Option (List Char × List Char) :=
  match s with
  | '.' :: d :: rest =>
    if d.isDigit then some (d :: rest.takeWhile Char.isDigit, rest.dropWhile Char.isDigit) else none
  | _ => none

/-- The power of ten after an `e`, if digits follow it. -/
def takeExponent (s : List Char) : Option (Int × List Char) :=
  match s with
  | c :: rest =>
    if c = 'e' ∨ c = 'E' then
      let signed := takeSign rest
      let digits := signed.2.takeWhile Char.isDigit
      if digits.isEmpty then none
      else
        let n : Nat := Nat.ofDigitChars 10 digits 0
        some (if signed.1 then -n else n, signed.2.dropWhile Char.isDigit)
    else none
  | [] => none

/-- The digits before the point: a lone zero, or digits of which the first is none. -/
def takeWhole (s : List Char) : Option (List Char × List Char) :=
  match s with
  | '0' :: rest => some (['0'], rest)
  | c :: rest =>
    if c.isDigit then some (c :: rest.takeWhile Char.isDigit, rest.dropWhile Char.isDigit) else none
  | [] => none

/-- A fraction and an exponent, each if it is there, and the text after them. -/
structure NumberTail where
  decimals : Option (List Char)
  power : Option Int
  rest : List Char

def takeNumberTail (s : List Char) : NumberTail :=
  match takeFraction s with
  | none =>
    match takeExponent s with
    | none => ⟨none, none, s⟩
    | some (power, rest) => ⟨none, some power, rest⟩
  | some (decimals, s) =>
    match takeExponent s with
    | none => ⟨some decimals, none, s⟩
    | some (power, rest) => ⟨some decimals, some power, rest⟩

/-- The value of a number: an integer if only its whole part is written. -/
def numberValue (negative : Bool) (whole : List Char) (tail : NumberTail) : Json :=
  match tail.decimals, tail.power with
  | none, none =>
    let n : Nat := Nat.ofDigitChars 10 whole 0
    int (if negative then -n else n)
  | decimals, power =>
    let decimals := decimals.getD []
    let n := Nat.ofDigitChars 10 (whole ++ decimals) 0
    float (.ofDecimal negative n (power.getD 0 - decimals.length))

/-- A number without its sign. -/
def readMagnitude? (negative : Bool) (s : List Char) : Option (Json × List Char) :=
  match takeWhole s with
  | none => none
  | some (whole, rest) =>
    let tail := takeNumberTail rest
    some (numberValue negative whole tail, tail.rest)

/-- A number. -/
def readNumber? : List Char → Option (Json × List Char)
  | '-' :: rest => readMagnitude? true rest
  | s => readMagnitude? false s

/-- What follows a word at the start of a text. -/
def after? : (word s : List Char) → Option (List Char)
  | [], s => some s
  | _ :: _, [] => none
  | w :: ws, c :: cs => if w = c then after? ws cs else none

/-- The words that stand for values. -/
def words : List (List Char × Json) :=
  [("null".toList, null), ("true".toList, bool true), ("false".toList, bool false),
   ("NaN".toList, float .nan), ("Infinity".toList, float (.infinity false)),
   ("-Infinity".toList, float (.infinity true))]

/-- The word at the start of a text. -/
def readWord? (s : List Char) : List (List Char × Json) → Option (Json × List Char)
  | [] => none
  | (w, v) :: more =>
    match after? w s with
    | some rest => some (v, rest)
    | none => readWord? s more

/-- A number or a word. -/
def readPlain? (s : List Char) : Option (Json × List Char) :=
  match readWord? s words with
  | some r => some r
  | none => readNumber? s

/-- How many digits an integer has, if they are more than are read. -/
def surplus? : Json → Option Nat
  | int n => if hasText n then none else some (natText n.natAbs).length
  | _ => none

/-- A word leaves the text without its characters. -/
theorem after?_length {w s r : List Char} (h : after? w s = some r) :
    r.length + w.length = s.length := by
  fun_induction after? w s with
  | case1 => cases h; simp
  | case2 => simp at h
  | case3 ws c cs ih => have := ih h; simp; omega
  | case4 => simp at h

theorem readWord?_length {s : List Char} {ws : List (List Char × Json)} {r : Json × List Char}
    (hw : ∀ w ∈ ws, w.1 ≠ []) (h : readWord? s ws = some r) : r.2.length < s.length := by
  induction ws with
  | nil => simp [readWord?] at h
  | cons w more ih =>
    obtain ⟨w, v⟩ := w
    simp only [readWord?] at h
    cases hr : after? w s with
    | none => rw [hr] at h; exact ih (fun x hx => hw x (List.mem_cons_of_mem _ hx)) h
    | some rest =>
      rw [hr] at h
      cases h
      have h1 := after?_length hr
      have h2 : w.length ≠ 0 := by simpa using hw (w, v) List.mem_cons_self
      simp
      omega

/-- A whole part has at least one digit. -/
theorem takeWhole_length {s : List Char} {r : List Char × List Char} (h : takeWhole s = some r) :
    r.2.length < s.length := by
  unfold takeWhole at h
  split at h
  · cases h; simp
  · next c rest _ =>
    split at h
    · cases h
      have := (List.dropWhile_sublist (l := rest) Char.isDigit).length_le
      simp; omega
    · simp at h
  · simp at h

/-- A fraction gives nothing back that was not there. -/
theorem takeFraction_length {s : List Char} {r : List Char × List Char}
    (h : takeFraction s = some r) : r.2.length ≤ s.length := by
  unfold takeFraction at h
  split at h
  · next d rest =>
    split at h
    · cases h
      have := (List.dropWhile_sublist (l := rest) Char.isDigit).length_le
      simp; omega
    · simp at h
  · simp at h

theorem takeExponent_length {s : List Char} {r : Int × List Char} (h : takeExponent s = some r) :
    r.2.length ≤ s.length := by
  unfold takeExponent at h
  split at h
  · next c rest =>
    split at h
    · simp only at h
      split at h
      · simp at h
      · cases h
        have h1 := (List.dropWhile_sublist (l := (takeSign rest).2) Char.isDigit).length_le
        have h2 := takeSign_length rest
        simp only [List.length_cons]
        omega
    · simp at h
  · simp at h

/-- What follows a whole part may be nothing. -/
theorem takeNumberTail_length (s : List Char) : (takeNumberTail s).rest.length ≤ s.length := by
  unfold takeNumberTail
  split
  · split
    · exact Nat.le_refl _
    · next h => exact takeExponent_length h
  · next h1 =>
    have := takeFraction_length h1
    split
    · exact this
    · next h2 => exact Nat.le_trans (takeExponent_length h2) this

/-- A number without its sign takes at least one character. -/
theorem readMagnitude?_length {negative : Bool} {s : List Char} {r : Json × List Char}
    (h : readMagnitude? negative s = some r) : r.2.length < s.length := by
  unfold readMagnitude? at h
  split at h
  · simp at h
  · next whole rest hw =>
    cases h
    exact Nat.lt_of_le_of_lt (takeNumberTail_length rest) (takeWhole_length hw)

theorem readNumber?_length {s : List Char} {r : Json × List Char} (h : readNumber? s = some r) :
    r.2.length < s.length := by
  unfold readNumber? at h
  split at h
  · exact Nat.lt_succ_of_lt (readMagnitude?_length h)
  · exact readMagnitude?_length h

/-- A number or a word takes at least one character. -/
theorem readPlain?_length {s : List Char} {r : Json × List Char} (h : readPlain? s = some r) :
    r.2.length < s.length := by
  unfold readPlain? at h
  split at h
  · next hw => cases h; exact readWord?_length (by simp [words]) hw
  · exact readNumber?_length h

/-! ## Values -/

/-- An array or object that is open: what it holds so far, the last first. -/
inductive Frame where
  | array (before : List Json)
  | object (before : List (String × Json)) (key : String)

/-- What has to come next. -/
inductive Phase where
  /-- A value. -/
  | value
  /-- A value, or the end of an array that is still empty. -/
  | firstItem
  /-- A key, or the end of an object that is still empty. -/
  | firstKey
  /-- A key of an object that holds these fields. -/
  | key (before : List (String × Json))
  /-- The colon after a key. -/
  | colon (before : List (String × Json)) (key : String)
  /-- What may follow a value that is complete. -/
  | after (value : Json)

/-- How far the reader is: the open arrays and objects from the inside out, what has to come next,
and the text that is left. -/
structure Cursor where
  frames : List Frame
  phase : Phase
  rest : List Char

/-- What one step leads to. -/
inductive Progress where
  | done (value : Json)
  | more (cursor : Cursor)

/-- Takes a value, or the opening of an array or object, from a text that begins with `c`. -/
def stepValue (frames : List Frame) (c : Char) (tail : List Char) : Except Fault Cursor :=
  if c = '"' then
    match readString (c :: tail) tail with
    | .error f => .error f
    | .ok (t, rest) => .ok ⟨frames, .after (str t), rest⟩
  else if c = '[' then .ok ⟨frames, .firstItem, tail⟩
  else if c = '\x7b' then .ok ⟨frames, .firstKey, tail⟩
  else
    match readPlain? (c :: tail) with
    | some (v, rest) =>
      match surplus? v with
      | none => .ok ⟨frames, .after v, rest⟩
      | some digits => .error ⟨.longInteger digits, c :: tail⟩
    | none => .error ⟨.value, c :: tail⟩

/-- Takes a key from a text that begins with `c`. -/
def stepKey (frames : List Frame) (before : List (String × Json)) (c : Char) (tail : List Char) :
    Except Fault Cursor :=
  if c = '"' then
    match readString (c :: tail) tail with
    | .error f => .error f
    | .ok (key, rest) => .ok ⟨frames, .colon before key, rest⟩
  else .error ⟨.key, c :: tail⟩

/-- Takes the comma or the end of the innermost array or object after a value in it. -/
def stepAfter (v : Json) (frame : Frame) (outer : List Frame) (c : Char) (tail : List Char) :
    Except Fault Cursor :=
  match frame with
  | .array before =>
    if c = ']' then .ok ⟨outer, .after (arr (v :: before).reverse), tail⟩
    else if c = ',' then .ok ⟨.array (v :: before) :: outer, .value, tail⟩
    else .error ⟨.comma, c :: tail⟩
  | .object before key =>
    if c = '\x7d' then .ok ⟨outer, .after (obj (ofFields ((key, v) :: before).reverse)), tail⟩
    else if c = ',' then .ok ⟨outer, .key ((key, v) :: before), tail⟩
    else .error ⟨.comma, c :: tail⟩

/-- Takes what has to come next from a text that begins with `c`, which is no gap. -/
def stepChar (frames : List Frame) (phase : Phase) (c : Char) (tail : List Char) :
    Except Fault Cursor :=
  match phase with
  | .value => stepValue frames c tail
  | .firstItem =>
    if c = ']' then .ok ⟨frames, .after (arr []), tail⟩
    else stepValue (.array [] :: frames) c tail
  | .firstKey =>
    if c = '\x7d' then .ok ⟨frames, .after (obj []), tail⟩ else stepKey frames [] c tail
  | .key before => stepKey frames before c tail
  | .colon before key =>
    if c = ':' then .ok ⟨.object before key :: frames, .value, tail⟩
    else .error ⟨.colon, c :: tail⟩
  | .after v =>
    match frames with
    | [] => .error ⟨.extra, c :: tail⟩
    | frame :: outer => stepAfter v frame outer c tail

/-- What is wrong where the text ends too early. -/
def Phase.atEnd : Phase → FaultKind
  | .value | .firstItem => .value
  | .firstKey | .key _ => .key
  | .colon .. => .colon
  | .after _ => .comma

/-- One step from a text without a gap in front. -/
def step (frames : List Frame) (phase : Phase) : List Char → Except Fault Progress
  | [] =>
    match frames, phase with
    | [], .after v => .ok (.done v)
    | _, phase => .error ⟨phase.atEnd, []⟩
  | c :: tail =>
    match stepChar frames phase c tail with
    | .error f => .error f
    | .ok cursor => .ok (.more cursor)

/-- A value, or its opening, is taken from the first character on. -/
theorem stepValue_length {frames : List Frame} {c : Char} {tail : List Char} {k : Cursor}
    (h : stepValue frames c tail = .ok k) : k.rest.length ≤ tail.length := by
  unfold stepValue at h
  split at h
  · split at h
    · simp at h
    · next hr => cases h; exact Nat.le_of_lt (readString_length hr)
  · split at h
    · cases h; exact Nat.le_refl _
    · split at h
      · cases h; exact Nat.le_refl _
      · split at h
        · next hr =>
          split at h
          · cases h; exact Nat.le_of_lt_succ (readPlain?_length hr)
          · simp at h
        · simp at h

/-- A key is taken from its quote on. -/
theorem stepKey_length {frames : List Frame} {before : List (String × Json)} {c : Char}
    {tail : List Char} {k : Cursor} (h : stepKey frames before c tail = .ok k) :
    k.rest.length ≤ tail.length := by
  unfold stepKey at h
  split at h
  · split at h
    · simp at h
    · next hr => cases h; exact Nat.le_of_lt (readString_length hr)
  · simp at h

theorem stepAfter_length {v : Json} {frame : Frame} {outer : List Frame} {c : Char}
    {tail : List Char} {k : Cursor} (h : stepAfter v frame outer c tail = .ok k) :
    k.rest.length ≤ tail.length := by
  unfold stepAfter at h
  cases frame <;> simp only at h <;> split at h
  · cases h; exact Nat.le_refl _
  · split at h
    · cases h; exact Nat.le_refl _
    · simp at h
  · cases h; exact Nat.le_refl _
  · split at h
    · cases h; exact Nat.le_refl _
    · simp at h

/-- Whatever has to come next, its first character is gone. -/
theorem stepChar_length {frames : List Frame} {phase : Phase} {c : Char} {tail : List Char}
    {k : Cursor} (h : stepChar frames phase c tail = .ok k) : k.rest.length ≤ tail.length := by
  cases phase with
  | value => exact stepValue_length h
  | firstItem =>
    simp only [stepChar] at h
    split at h
    · cases h; exact Nat.le_refl _
    · exact stepValue_length h
  | firstKey =>
    simp only [stepChar] at h
    split at h
    · cases h; exact Nat.le_refl _
    · exact stepKey_length h
  | key before => exact stepKey_length h
  | colon before key =>
    simp only [stepChar] at h
    split at h
    · cases h; exact Nat.le_refl _
    · simp at h
  | after v =>
    cases frames with
    | nil => simp [stepChar] at h
    | cons frame outer => exact stepAfter_length h

/-- Every step takes at least one character. -/
theorem step_length {frames : List Frame} {phase : Phase} {s : List Char} {k : Cursor}
    (h : step frames phase s = .ok (.more k)) : k.rest.length < s.length := by
  unfold step at h
  split at h
  · split at h <;> simp at h
  · split at h
    · simp at h
    · next hk => cases h; exact Nat.lt_succ_of_le (stepChar_length hk)

/-- Blanks are passed over, and nothing is put in their place. -/
theorem skipGap_length (s : List Char) : (skipGap s).length ≤ s.length :=
  (List.dropWhile_sublist isGap).length_le

/-- Reads on until the outermost value is complete and only blanks are left. -/
def readFrom (frames : List Frame) (phase : Phase) (s : List Char) : Except Fault Json :=
  match _h : step frames phase (skipGap s) with
  | .error f => .error f
  | .ok (.done v) => .ok v
  | .ok (.more k) => readFrom k.frames k.phase k.rest
termination_by s.length
decreasing_by exact Nat.lt_of_lt_of_le (step_length _h) (skipGap_length s)

/-- Reads a whole text. A byte-order mark in front is refused. -/
def read (s : List Char) : Except Fault Json :=
  match s with
  | '\uFEFF' :: _ => .error ⟨.byteOrderMark, s⟩
  | _ => readFrom [] .value s

/-- How many characters of the text stand before the fault. -/
def Fault.position (f : Fault) (s : List Char) : Nat := s.length - f.rest.length

end MovePlan.Json
