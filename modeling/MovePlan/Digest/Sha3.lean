/-!
# SHA3-256

The sponge over the permutation Keccak-f[1600]: 25 lanes of 64 bits, of which 17 take in the message
136 bytes at a time and the first four give the digest. Lane `(x, y)` stands at `x + 5 * y`; bytes
fill a lane from its low end.
-/

namespace MovePlan.Digest

/-- The lanes of the state. -/
abbrev Lanes := Array UInt64

def lane (a : Lanes) (x y : Nat) : UInt64 := a.getD (x % 5 + 5 * (y % 5)) 0

/-- A state from its lanes by coordinates. -/
def ofCoordinates (f : Nat → Nat → UInt64) : Lanes :=
  Array.ofFn fun i : Fin 25 => f (i.val % 5) (i.val / 5)

def rotateLeft (w : UInt64) (n : Nat) : UInt64 :=
  if n % 64 = 0 then w
  else (w <<< UInt64.ofNat (n % 64)) ||| (w >>> UInt64.ofNat (64 - n % 64))

/-- The distance by which each lane is rotated. -/
def rotations : Array Nat :=
  #[0, 1, 62, 28, 27, 36, 44, 6, 55, 20, 3, 10, 43, 25, 39, 41, 45, 15, 21, 8, 18, 2, 61, 56, 14]

/-- The constants that the rounds add to the first lane. -/
def roundConstants : List UInt64 :=
  [0x0000000000000001, 0x0000000000008082, 0x800000000000808A, 0x8000000080008000,
   0x000000000000808B, 0x0000000080000001, 0x8000000080008081, 0x8000000000008009,
   0x000000000000008A, 0x0000000000000088, 0x0000000080008009, 0x000000008000000A,
   0x000000008000808B, 0x800000000000008B, 0x8000000000008089, 0x8000000000008003,
   0x8000000000008002, 0x8000000000000080, 0x000000000000800A, 0x800000008000000A,
   0x8000000080008081, 0x8000000000008080, 0x0000000080000001, 0x8000000080008008]

/-- Adds to each lane the parities of two columns beside it. -/
def theta (a : Lanes) : Lanes :=
  let parity := Array.ofFn fun x : Fin 5 =>
    lane a x 0 ^^^ lane a x 1 ^^^ lane a x 2 ^^^ lane a x 3 ^^^ lane a x 4
  let beside (x : Nat) := parity.getD ((x + 4) % 5) 0 ^^^ rotateLeft (parity.getD ((x + 1) % 5) 0) 1
  ofCoordinates fun x y => lane a x y ^^^ beside x

/-- Rotates the lanes and moves them to their new places. -/
def rhoPi (a : Lanes) : Lanes :=
  ofCoordinates fun x y =>
    let x0 := (x + 3 * y) % 5
    rotateLeft (lane a x0 x) (rotations.getD (x0 + 5 * x) 0)

/-- Combines each lane with the two after it in its row. -/
def chi (a : Lanes) : Lanes :=
  ofCoordinates fun x y => lane a x y ^^^ ((~~~ lane a (x + 1) y) &&& lane a (x + 2) y)

def round (a : Lanes) (constant : UInt64) : Lanes :=
  let b := chi (rhoPi (theta a))
  b.setIfInBounds 0 (lane b 0 0 ^^^ constant)

def permute (a : Lanes) : Lanes := roundConstants.foldl round a

/-- The number of bytes that are taken in at a time. -/
def rate : Nat := 136

/-- A lane from its bytes, the low one first. -/
def laneOfBytes (bytes : List UInt8) : UInt64 :=
  bytes.foldr (fun b w => (w <<< 8) ||| b.toUInt64) 0

/-- The bytes of a lane, the low one first. -/
def bytesOfLane (w : UInt64) : List UInt8 :=
  (List.range 8).map fun i => (w >>> UInt64.ofNat (8 * i)).toUInt8

/-- Takes one block of bytes in. -/
def absorbBlock (a : Lanes) (block : List UInt8) : Lanes :=
  permute (Array.ofFn fun i : Fin 25 =>
    a.getD i 0 ^^^ laneOfBytes ((block.drop (8 * i)).take 8))

/-- Takes the bytes in block by block. -/
def absorb (a : Lanes) (bytes : List UInt8) : Lanes :=
  if bytes.isEmpty then a else absorb (absorbBlock a (bytes.take rate)) (bytes.drop rate)
termination_by bytes.length
decreasing_by
  rename_i h
  cases bytes with
  | nil => simp at h
  | cons b rest => simp only [List.length_drop, List.length_cons, rate]; omega

/-- The message filled up to whole blocks: `06`, zeros, and a last bit. -/
def pad (message : List UInt8) : List UInt8 :=
  let gap := rate - message.length % rate
  if gap = 1 then message ++ [0x86]
  else message ++ 0x06 :: List.replicate (gap - 2) 0 ++ [0x80]

/-- The 32 bytes of the digest. -/
def sha3 (message : List UInt8) : List UInt8 :=
  let a := absorb (Array.replicate 25 0) (pad message)
  (List.range 4).flatMap fun i => bytesOfLane (a.getD i 0)

end MovePlan.Digest
