import MovePlan.Text.Quoted

/-!
# ASCII

Some fields hold characters of ASCII only. What cannot be put into them is told by the first run of
other characters, with its place.
-/

namespace MovePlan.Host

open Text

def isAscii (c : Char) : Bool := c.toNat < 0x80

/-- A capital digit of base sixteen. -/
def upperHex (n : Nat) : Char := (hexChar n).toUpper

/-- A number in capital digits of base sixteen, four of them at least. -/
def upperHexText (n : Nat) : List Char :=
  let width := if n < 0x10000 then 4 else if n < 0x100000 then 5 else 6
  (hexDigits width n).map Char.toUpper

/-- What keeps a text from being put into ASCII. -/
def describeBeyondAscii (s : List Char) : String :=
  let before := s.takeWhile isAscii
  let run := (s.drop before.length).takeWhile (!isAscii ·)
  let first := before.length
  let place := match run with
    | [c] =>
      let escape := String.ofList (codePointEscape c.toNat)
      s!"character '{escape}' in position {first}"
    | _ => s!"characters in position {first}-{first + run.length - 1}"
  s!"'ascii' codec can't encode {place}: ordinal not in range(128)"

end MovePlan.Host
