/-!
# UTF-8

Bytes as text. Decoding stops at the first byte that no well-formed sequence allows and tells where
the broken sequence begins, how far it goes, and what is wrong: a byte that begins no sequence, one
that does not continue the sequence before it, or an end too early. Where faults do no harm the
replacement character takes the place of a broken sequence.
-/

namespace MovePlan.Text

/-- The character that stands where there is none. -/
def replacement : Char := Char.ofNat 0xFFFD

namespace Utf8

/-- What is wrong with a sequence of bytes. -/
inductive FaultKind where
  | start
  | continuation
  | tooShort
  deriving DecidableEq, Repr

/-- A fault at a position, and how many bytes it is about. -/
structure Fault where
  kind : FaultKind
  position : Nat
  length : Nat
  byte : Nat
  deriving DecidableEq, Repr

/-- The least and greatest second byte after a first one, and how many bytes follow the first; none
if the byte begins no sequence of several. -/
def sequence? (b : Nat) : Option (Nat × Nat × Nat) :=
  if 0xC2 ≤ b ∧ b ≤ 0xDF then some (0x80, 0xBF, 1)
  else if b = 0xE0 then some (0xA0, 0xBF, 2)
  else if b = 0xED then some (0x80, 0x9F, 2)
  else if 0xE1 ≤ b ∧ b ≤ 0xEF then some (0x80, 0xBF, 2)
  else if b = 0xF0 then some (0x90, 0xBF, 3)
  else if 0xF1 ≤ b ∧ b ≤ 0xF3 then some (0x80, 0xBF, 3)
  else if b = 0xF4 then some (0x80, 0x8F, 3)
  else none

/-- The bits of a first byte that belong to the character. -/
def leadBits (b following : Nat) : Nat :=
  if following = 1 then b % 0x20 else if following = 2 then b % 0x10 else b % 8

/-- What is still to come of a sequence: the bounds of the next byte, how many bytes are missing, the
bits so far, and the first byte with the count of bytes that were taken. -/
structure Open where
  low : Nat
  high : Nat
  missing : Nat
  bits : Nat
  first : Nat
  taken : Nat

/-- Decodes bytes from a position on; `sequence` is the sequence that is open. -/
def decodeFrom (position : Nat) (sequence : Option Open) : List UInt8 → Except Fault (List Char)
  | [] =>
    match sequence with
    | none => .ok []
    | some o => .error ⟨.tooShort, position - o.taken, o.taken, o.first⟩
  | byte :: rest =>
    let b := byte.toNat
    match sequence with
    | none =>
      if b < 0x80 then (decodeFrom (position + 1) none rest).map (Char.ofNat b :: ·)
      else match sequence? b with
        | none => .error ⟨.start, position, 1, b⟩
        | some (low, high, n) =>
          decodeFrom (position + 1) (some ⟨low, high, n, leadBits b n, b, 1⟩) rest
    | some o =>
      if o.low ≤ b ∧ b ≤ o.high then
        let bits := o.bits * 0x40 + b % 0x40
        if o.missing = 1 then (decodeFrom (position + 1) none rest).map (Char.ofNat bits :: ·)
        else
          decodeFrom (position + 1) (some ⟨0x80, 0xBF, o.missing - 1, bits, o.first, o.taken + 1⟩)
            rest
      else .error ⟨.continuation, position - o.taken, o.taken, o.first⟩

/-- The text that bytes spell. -/
def decode (bytes : List UInt8) : Except Fault (List Char) := decodeFrom 0 none bytes

/-! ## Reading in spite of faults -/

/-- The characters that a byte spells where no sequence is open, and the sequence that it opens. -/
def begin (b : Nat) : List Char × Option Open :=
  if b < 0x80 then ([Char.ofNat b], none)
  else match sequence? b with
    | none => ([replacement], none)
    | some (low, high, n) => ([], some ⟨low, high, n, leadBits b n, b, 1⟩)

/-- Decodes bytes with the replacement character for every sequence that is broken, as far as it
goes. -/
def mendFrom (sequence : Option Open) : List UInt8 → List Char
  | [] => if sequence.isSome then [replacement] else []
  | byte :: rest =>
    let b := byte.toNat
    match sequence with
    | none => (begin b).1 ++ mendFrom (begin b).2 rest
    | some o =>
      if o.low ≤ b ∧ b ≤ o.high then
        let bits := o.bits * 0x40 + b % 0x40
        if o.missing = 1 then Char.ofNat bits :: mendFrom none rest
        else mendFrom (some ⟨0x80, 0xBF, o.missing - 1, bits, o.first, o.taken + 1⟩) rest
      else replacement :: (begin b).1 ++ mendFrom (begin b).2 rest

/-- The text that bytes spell, with the replacement character where they spell none. -/
def mend (bytes : List UInt8) : List Char := mendFrom none bytes

end Utf8

end MovePlan.Text
