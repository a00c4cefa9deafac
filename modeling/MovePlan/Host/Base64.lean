/-!
# Base 64

Bytes as text of sixty-four characters: three bytes are four digits of six bits, and signs of equality
fill up the last group where bytes are missing.
-/

namespace MovePlan.Host.Base64

/-- The digit for a value below sixty-four. -/
def digit (n : Nat) : Char :=
  if n < 26 then Char.ofNat (0x41 + n)
  else if n < 52 then Char.ofNat (0x61 + (n - 26))
  else if n < 62 then Char.ofNat (0x30 + (n - 52))
  else if n = 62 then '+'
  else '/'

/-- The four digits of a number of twenty-four bits. -/
def digits (n : Nat) : List Char :=
  [digit (n / 0x40000 % 0x40), digit (n / 0x1000 % 0x40), digit (n / 0x40 % 0x40), digit (n % 0x40)]

/-- Bytes as text. -/
def encode : List UInt8 → List Char
  | [] => []
  | [a] => (digits (a.toNat * 0x10000)).take 2 ++ ['=', '=']
  | [a, b] => (digits (a.toNat * 0x10000 + b.toNat * 0x100)).take 3 ++ ['=']
  | a :: b :: c :: rest =>
    digits (a.toNat * 0x10000 + b.toNat * 0x100 + c.toNat) ++ encode rest

end MovePlan.Host.Base64
