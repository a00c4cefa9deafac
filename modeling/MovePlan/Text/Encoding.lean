import MovePlan.Text.Utf8
import MovePlan.Text.Digit

/-!
# Encodings

Bytes spell a text in units of one, two or four bytes. Which of them it is shows in the zero bytes at
the beginning, if the text begins with characters of ASCII, as every document does. What is wrong with
bytes is told with the name of the encoding, the place and the first byte.
-/

namespace MovePlan.Text

/-- How bytes spell a text; in units of several bytes either the first byte weighs most or the last. -/
inductive Encoding where
  | utf8
  | utf16 (bigEndian : Bool)
  | utf32 (bigEndian : Bool)
  deriving DecidableEq, Repr

/-- Bytes that spell nothing: how many from which place on, the first of them, and what is wrong. -/
structure Undecodable where
  position : Nat
  length : Nat
  byte : Nat
  what : String
  deriving DecidableEq, Repr

namespace Encoding

/-- The name of an encoding in messages. -/
def name : Encoding → String
  | utf8 => "utf-8"
  | utf16 true => "utf-16-be"
  | utf16 false => "utf-16-le"
  | utf32 true => "utf-32-be"
  | utf32 false => "utf-32-le"

/-- The encoding of a text that begins with characters of ASCII. -/
def ofStart : List UInt8 → Encoding
  | [a, b] => if a = 0 then utf16 true else if b = 0 then utf16 false else utf8
  | a :: b :: c :: d :: _ =>
    if a = 0 then if b = 0 then utf32 true else utf16 true
    else if b = 0 then if c = 0 ∧ d = 0 then utf32 false else utf16 false
    else utf8
  | _ => utf8

/-- The number that bytes are, read in the given order. -/
def unitOf (bigEndian : Bool) (bytes : List UInt8) : Nat :=
  (if bigEndian then bytes else bytes.reverse).foldl (fun n b => n * 0x100 + b.toNat) 0

/-- Bytes at the end that are too few for a unit. -/
def truncated (position : Nat) (bytes : List UInt8) : Undecodable :=
  ⟨position, bytes.length, (bytes.head?.getD 0).toNat, "truncated data"⟩

/-- The character of a code point; half a pair of units shows as the replacement character. -/
def charOf (n : Nat) : Char := if n.isValidChar then Char.ofNat n else replacement

/-- The units of two bytes from a position on. -/
def units (bigEndian : Bool) (position : Nat) : List UInt8 → Except Undecodable (List Nat)
  | [] => .ok []
  | a :: b :: rest => (units bigEndian (position + 2) rest).map (unitOf bigEndian [a, b] :: ·)
  | rest => .error (truncated position rest)

/-- The characters that units of two bytes spell, alone or in pairs. -/
def joinPairs : List Nat → List Char
  | high :: low :: rest =>
    if 0xD800 ≤ high ∧ high < 0xDC00 ∧ 0xDC00 ≤ low ∧ low < 0xE000 then
      charOf (0x10000 + (high - 0xD800) * 0x400 + (low - 0xDC00)) :: joinPairs rest
    else charOf high :: joinPairs (low :: rest)
  | [n] => [charOf n]
  | [] => []

/-- The characters that units of four bytes spell, from a position on. -/
def quads (bigEndian : Bool) (position : Nat) : List UInt8 → Except Undecodable (List Char)
  | [] => .ok []
  | a :: b :: c :: d :: rest =>
    let n := unitOf bigEndian [a, b, c, d]
    if 0x10FFFF < n then
      .error ⟨position, 4, a.toNat, "code point not in range(0x110000)"⟩
    else (quads bigEndian (position + 4) rest).map (charOf n :: ·)
  | rest => .error (truncated position rest)

/-- What is wrong with bytes that are no UTF-8. -/
def ofFault (f : Utf8.Fault) : Undecodable :=
  let what := match f.kind with
    | .start => "invalid start byte"
    | .continuation => "invalid continuation byte"
    | .tooShort => "unexpected end of data"
  ⟨f.position, f.length, f.byte, what⟩

/-- The text that bytes spell. -/
def decode (bytes : List UInt8) : Encoding → Except Undecodable (List Char)
  | utf8 => (Utf8.decode bytes).mapError ofFault
  | utf16 bigEndian => (units bigEndian 0 bytes).map joinPairs
  | utf32 bigEndian => quads bigEndian 0 bytes

/-- What is wrong with bytes, in words. -/
def describe (e : Encoding) (u : Undecodable) : String :=
  let hex := String.ofList [hexChar (u.byte / 16), hexChar (u.byte % 16)]
  if u.length = 1 then
    s!"'{e.name}' codec can't decode byte 0x{hex} in position {u.position}: {u.what}"
  else
    s!"'{e.name}' codec can't decode bytes in position " ++
      s!"{u.position}-{u.position + u.length - 1}: {u.what}"

end Encoding

end MovePlan.Text
