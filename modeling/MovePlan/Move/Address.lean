import MovePlan.Text.Path
import MovePlan.Text.Case
import MovePlan.Text.Digit
import MovePlan.Digest.Sha3

/-!
# Account addresses

An address is `0x` and up to 64 hexadecimal digits for 32 bytes. Its canonical spelling has all 64
digits in lower case. Texts that do not begin with `0x` are left as they are, so that names can be
compared along with addresses. The address of an object is derived from that of its creator and a
seed; the store that holds an owner's balance of an asset is such an object.
-/

namespace MovePlan.Move

open Text

/-- The number of hexadecimal digits of a full address. -/
def addressDigits : Nat := 64

namespace Address

/-- The canonical spelling of an address. -/
def canonicalChars (s : List Char) : List Char :=
  match lower (trim s) with
  | '0' :: 'x' :: digits =>
    '0' :: 'x' :: (List.replicate (addressDigits - digits.length) '0' ++ digits)
  | _ => s

def canonical (s : String) : String := String.ofList (canonicalChars s.toList)

/-- Whether two texts spell the same address. -/
def same (a b : String) : Bool := canonicalChars a.toList == canonicalChars b.toList

/-- Whether a text is `0x` and 1 to 64 hexadecimal digits. -/
def isWellFormed : List Char → Bool
  | '0' :: 'x' :: rest =>
    let digits := rest.takeWhile isHexDigit
    1 ≤ digits.length && digits.length ≤ addressDigits && isFieldEnd (rest.dropWhile isHexDigit)
  | _ => false

/-- The bytes that pairs of hexadecimal digits spell. -/
def bytesOfHex : List Char → List UInt8
  | a :: b :: rest =>
    UInt8.ofNat ((hexValue? a).getD 0 * 16 + (hexValue? b).getD 0) :: bytesOfHex rest
  | _ => []

/-- The hexadecimal digits of bytes. -/
def hexOfBytes (bytes : List UInt8) : List Char :=
  bytes.flatMap fun b => [hexChar (b.toNat / 16), hexChar (b.toNat % 16)]

/-- The 32 bytes of an address; none if the text is not one. -/
def bytes? (s : List Char) : Option (List UInt8) :=
  let s := trim s
  if isWellFormed s then some (bytesOfHex ((canonicalChars s).drop 2)) else none

/-- The mark of addresses that are derived from a seed. -/
def seedScheme : UInt8 := 0xFE

/-- The address of the object that a creator derives from a seed. -/
def ofSeed (creator seed : List UInt8) : String :=
  String.ofList ('0' :: 'x' :: hexOfBytes (Digest.sha3 (creator ++ seed ++ [seedScheme])))

end Address

end MovePlan.Move
