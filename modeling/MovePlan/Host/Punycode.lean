import MovePlan.Text.Utf8

/-!
# Punycode

A text of any characters in letters, digits and hyphens of ASCII. The characters of ASCII come first,
with a hyphen behind them; then, in ascending order of the code points, comes where each of the
others is put in. A place is told as the number of places passed over since the last one, in digits
of base thirty-six of which the first ones weigh least; the threshold of each digit, below which it
is the last one, follows a bias that adapts to the numbers so far.

Reading a number takes at least one digit, and writing one divides it: so both end.
-/

namespace MovePlan.Host.Punycode

open Text

/-- The first code point that is not of ASCII. -/
def firstCode : Nat := 0x80

/-- The bias before the first number. -/
def firstBias : Nat := 72

/-- The digit of a value below thirty-six. -/
def digit (n : Nat) : Char :=
  if n < 26 then Char.ofNat (0x61 + n) else Char.ofNat (0x30 + (n - 26))

/-- The value of a digit. -/
def value? (c : Char) : Option Nat :=
  if 'a' ≤ c ∧ c ≤ 'z' then some (c.toNat - 0x61)
  else if '0' ≤ c ∧ c ≤ '9' then some (c.toNat - 0x30 + 26)
  else none

/-- The threshold of the digit at a position, counted in steps of thirty-six. -/
def threshold (position bias : Nat) : Nat :=
  if position ≤ bias then 1 else if bias + 26 ≤ position then 26 else position - bias

theorem threshold_pos (position bias : Nat) : 1 ≤ threshold position bias := by
  unfold threshold
  split
  · omega
  · split <;> omega

/-- The bias that a number asks for, which is scaled down till it is small. -/
def scaledBias (position n : Nat) : Nat :=
  if h : 455 < n then
    have : n / 35 < n := Nat.div_lt_self (by omega) (by omega)
    scaledBias (position + 36) (n / 35)
  else position + 36 * n / (n + 38)
termination_by n

/-- The bias after a number, with so many characters now; the first number counts least. -/
def adapt (n characters : Nat) (first : Bool) : Nat :=
  let n := if first then n / 700 else n / 2
  scaledBias 0 (n + n / characters)

/-! ## Writing -/

/-- The digits of a number from a position on. -/
def writeNumber (bias position n : Nat) : List Char :=
  let t := threshold position bias
  if h : n < t then [digit n]
  else
    have : (n - t) / (36 - t) < n := by
      have low := threshold_pos position bias
      exact Nat.lt_of_le_of_lt (Nat.div_le_self _ _) (by omega)
    digit (t + (n - t) % (36 - t)) :: writeNumber bias (position + 36) ((n - t) / (36 - t))
termination_by n

/-- The state of writing: the characters handled, the places passed over, the bias, and the text so
far, backward. -/
structure Writer where
  handled : Nat
  passed : Nat := 0
  bias : Nat := firstBias
  out : List Char := []

/-- Passes one character of the text while those of a code point are put in. -/
def Writer.pass (basic code : Nat) (w : Writer) (c : Char) : Writer :=
  if c.toNat < code then { w with passed := w.passed + 1 }
  else if c.toNat = code then
    { handled := w.handled + 1, passed := 0
      bias := adapt w.passed (w.handled + 1) (w.handled = basic)
      out := (writeNumber w.bias 36 w.passed).reverse ++ w.out }
  else w

/-- Puts in the characters of ascending code points, from a code point on. -/
def writeCodes (s : List Char) (basic : Nat) : (codes : List Nat) → (start : Nat) → Writer → Writer
  | [], _, w => w
  | code :: codes, start, w =>
    let w := { w with passed := w.passed + (code - start) * (w.handled + 1) }
    let w := s.foldl (Writer.pass basic code) w
    writeCodes s basic codes (code + 1) { w with passed := w.passed + 1 }

/-- Puts a number into an ascending list that does not hold it yet. -/
def insertCode (n : Nat) : List Nat → List Nat
  | [] => [n]
  | m :: rest => if n < m then n :: m :: rest else if n = m then m :: rest else m :: insertCode n rest

/-- A text in letters, digits and hyphens. -/
def encode (s : List Char) : List Char :=
  let basic := s.filter fun c => c.toNat < firstCode
  let codes := (s.filter fun c => firstCode ≤ c.toNat).foldl (fun cs c => insertCode c.toNat cs) []
  let w := writeCodes s basic.length codes firstCode { handled := basic.length }
  basic ++ (if basic.isEmpty then [] else ['-']) ++ w.out.reverse

/-! ## Reading -/

/-- The number that the next digits write, and the rest. -/
def readNumber? (bias position weight : Nat) : List Char → Option (Nat × List Char)
  | [] => none
  | c :: rest =>
    match value? c with
    | none => none
    | some n =>
      let t := threshold position bias
      if n < t then some (n * weight, rest)
      else (readNumber? bias (position + 36) (weight * (36 - t)) rest).map fun r =>
        (n * weight + r.1, r.2)

theorem readNumber?_length {bias position weight : Nat} {s : List Char} {r : Nat × List Char}
    (h : readNumber? bias position weight s = some r) : r.2.length < s.length := by
  induction s generalizing position weight r with
  | nil => simp [readNumber?] at h
  | cons c rest ih =>
    simp only [readNumber?] at h
    split at h
    · exact absurd h (by simp)
    · split at h
      · rw [← Option.some.inj h]
        exact Nat.lt_succ_self _
      · obtain ⟨q, hq, rfl⟩ := Option.map_eq_some_iff.1 h
        have shorter : q.2.length < rest.length := ih hq
        exact Nat.lt_succ_of_lt shorter

/-- The character of a code point; one that has none shows as the replacement character. -/
def charOf (n : Nat) : Char := if n.isValidChar then Char.ofNat n else replacement

/-- Puts characters into a text as numbers tell, from a code point and a place on. -/
def readCodes? (bias code place : Nat) (s : List Char) : List Char → Option (List Char)
  | [] => some s
  | c :: rest =>
    match h : readNumber? bias 36 1 (c :: rest) with
    | none => none
    | some (n, later) =>
      have : later.length < (c :: rest).length := readNumber?_length h
      let places := s.length + 1
      let code := code + (place + n) / places
      let place := (place + n) % places
      if 0x10FFFF < code then none
      else
        let first := s.all fun c => c.toNat < firstCode
        readCodes? (adapt n places first) code (place + 1) (s.take place ++ charOf code :: s.drop place)
          later
termination_by rest => rest.length
decreasing_by exact this

/-- The text that letters, digits and hyphens stand for. -/
def decode? (s : List Char) : Option (List Char) :=
  let extended := (s.reverse.takeWhile (· != '-')).reverse
  let basic := s.take (s.length - extended.length - 1)
  readCodes? firstBias firstCode 0 basic extended

end MovePlan.Host.Punycode
