import MovePlan.Text.Numeral
import MovePlan.Host.Base64
import MovePlan.Host.DomainName
import MovePlan.Numeric.Written

/-!
# Addresses of resources

The address of a resource on the network is a scheme, an authority of user, host and port, a path, and
perhaps a query and a fragment. It is read once into its normal spelling: scheme and host in small
letters, no port where it is the scheme's own, no `.` and `..` among the segments of the path, and
characters that may not stand in a part as percent escapes. Escapes that are there already stay.
-/

namespace MovePlan.Host

open Text

/-- An address in its normal spelling. -/
structure Url where
  scheme : List Char := []
  user : List Char := []
  host : List Char := []
  port : Option Int := none
  path : List Char := []
  query : Option (List Char) := none
  fragment : Option (List Char) := none
  deriving DecidableEq, Repr, Inhabited

namespace Url

/-! ## Escapes -/

/-- Letters, digits and marks that stand for themselves in every part. -/
def isUnreserved (c : Char) : Bool := c.isAlphanum || ['-', '.', '_', '~'].contains c

/-- The escape of a character: its bytes in UTF-8. -/
def escape (c : Char) : List Char :=
  (String.singleton c).toUTF8.toList.flatMap fun b =>
    ['%', upperHex (b.toNat / 16), upperHex (b.toNat % 16)]

/-- A part with escapes for the characters that are not safe in it. -/
def quote (safe : Char → Bool) : List Char → List Char
  | '%' :: a :: b :: rest =>
    if isHexDigit a && isHexDigit b then '%' :: a :: b :: quote safe rest
    else quoteChar '%' ++ quote safe (a :: b :: rest)
  | c :: rest => quoteChar c ++ quote safe rest
  | [] => []
where
  quoteChar (c : Char) : List Char := if isUnreserved c || safe c then [c] else escape c

/-- Printing characters of ASCII but for blanks, quotes, angle brackets and the given ones. -/
def isSafeBut (others : List Char) (c : Char) : Bool :=
  0x20 < c.toNat && c.toNat < 0x7F && !(['"', '<', '>'] ++ others).contains c

def isPathSafe : Char → Bool := isSafeBut ['#', '?', '`', '\x7b', '\x7d']

def isQuerySafe : Char → Bool := isSafeBut ['#']

def isFragmentSafe : Char → Bool := isSafeBut ['`']

def isUserSafe : Char → Bool :=
  isSafeBut ['#', '?', '`', '\x7b', '\x7d', '/', ';', '=', '@', '[', '\\', ']', '^', '|']

def isHostSafe (c : Char) : Bool := "!$&'()*+,;=\"`%|\\".toList.contains c || c == '\x7b' || c == '\x7d'

/-! ## Hosts and ports -/

/-- Whether digits with `separators` single characters between them are left, after a digit. -/
def looksNumeric : (separators : Nat) → List Char → Bool
  | 0, s => s.all Char.isDigit
  | n + 1, c :: d :: rest =>
    (c.isDigit && looksNumeric (n + 1) (d :: rest)) || (d.isDigit && looksNumeric n rest)
  | _ + 1, _ => false

/-- Whether a host has the look of four numbers. -/
def looksLikeFour : List Char → Bool
  | d :: rest => d.isDigit && looksNumeric 3 rest
  | [] => false

/-- The parts between separators; at least one. -/
def splitOn (separator : Char) : List Char → List (List Char)
  | [] => [[]]
  | c :: rest =>
    match splitOn separator rest with
    | [] => [[c]]
    | part :: parts => if c = separator then [] :: part :: parts else (c :: part) :: parts

/-- Whether a text is a number below 256 without a zero in front. -/
def isOctet (s : List Char) : Bool :=
  !s.isEmpty && s.length ≤ 3 && s.all Char.isDigit && (s.length = 1 || s.head? != some '0')
    && valueOf 10 digitValue? s < 256

/-- Whether a host is four numbers of one byte. -/
def isFour (s : List Char) : Bool :=
  let parts := splitOn '.' s
  parts.length = 4 && parts.all isOctet

/-- Whether a text is one to four hexadecimal digits. -/
def isHextet (s : List Char) : Bool := 1 ≤ s.length && s.length ≤ 4 && s.all isHexDigit

/-- Whether parts are those of an address of eight numbers, of which one run of zeros may be left
out. Empty parts stand for the run. -/
def areEight (parts : List (List Char)) : Bool :=
  let inner := (parts.drop 1).dropLast
  let runs := (inner.filter List.isEmpty).length
  let frontOk := parts.head? != some [] || (parts[1]? == some [])
  let backOk := parts.getLast? != some [] || (parts[parts.length - 2]? == some [])
  3 ≤ parts.length && runs ≤ 1 && frontOk && backOk
    && (parts.all fun p => p.isEmpty || isHextet p)
    && (if runs = 0 then parts.length = 8 else (parts.filter fun p => !p.isEmpty).length ≤ 7)

/-- Whether what stands behind eight numbers is nothing, or a percent sign and the name of a zone. -/
def isZone : List Char → Bool
  | [] => true
  | _ :: zone => !zone.isEmpty && !zone.contains '%'

/-- Whether a text is an address of eight numbers, of which the last two may be written as four, with
or without a zone. -/
def isEight (s : List Char) : Bool :=
  let numbers := s.takeWhile (· != '%')
  let parts := splitOn ':' numbers
  isZone (s.drop numbers.length) && match parts.reverse with
    | last :: front =>
      if last.contains '.' then isFour last && areEight ((['0'] :: ['0'] :: front).reverse)
      else areEight parts
    | [] => false

/-- The normal spelling of a host, if it has one; names beyond ASCII are spelled as they are sent. -/
def hostOf? (s : List Char) : Option (List Char) :=
  if s.isEmpty then some []
  else if looksLikeFour s then if isFour s then some s else none
  else
    match s, s.getLast? with
    | '[' :: inner, some ']' => if isEight inner.dropLast then some inner.dropLast else none
    | _, _ =>
      if s.all isAscii then some (quote isHostSafe (s.map Char.toLower))
      else (DomainName.write s).toOption

/-- The ports that schemes have of their own. -/
def ownPorts : List (List Char × Int) :=
  [(['f', 't', 'p'], 21), (['h', 't', 't', 'p'], 80), (['h', 't', 't', 'p', 's'], 443),
   (['w', 's'], 80), (['w', 's', 's'], 443)]

/-- The port, none if it is the own one of the scheme in small letters; no answer if the text is no
number. -/
def portOf? (scheme text : List Char) : Option (Option Int) :=
  if text.isEmpty then some none
  else
    match readInt? text with
    | none => none
    | some n => some (if ownPorts.lookup scheme = some n then none else some n)

/-! ## Paths -/

/-- The segments without `.`, and without `..` and the segment that it takes back. -/
def dropDots (kept : List (List Char)) : List (List Char) → List (List Char)
  | [] => kept.reverse
  | s :: rest =>
    if s = ['.'] then dropDots kept rest
    else if s = ['.', '.'] then
      dropDots (if kept = [[]] then kept else kept.drop 1) rest
    else dropDots (s :: kept) rest

/-- Segments with slashes between them. -/
def joinSegments : List (List Char) → List Char
  | [] => []
  | [s] => s
  | s :: rest => s ++ '/' :: joinSegments rest

def normalPath (path : List Char) : List Char :=
  let segments := splitOn '/' path
  if segments.contains ['.'] || segments.contains ['.', '.'] then joinSegments (dropDots [] segments)
  else path

/-! ## Reading -/

/-- The scheme in front of a text, if there is one, and the rest. -/
def takeScheme (s : List Char) : List Char × List Char :=
  let scheme := s.takeWhile fun c => c.isAlphanum || c == '+' || c == '.' || c == '-'
  match scheme, s.drop scheme.length with
  | c :: _, ':' :: rest => if c.isAlpha then (scheme, rest) else ([], s)
  | [], ':' :: rest => ([], rest)
  | _, _ => ([], s)

/-- The authority in front of a text, if there is one, and the rest. -/
def takeAuthority (s : List Char) : List Char × List Char :=
  match s with
  | '/' :: '/' :: rest =>
    let isEnd (c : Char) : Bool := c == '/' || c == '?' || c == '#'
    (rest.takeWhile (!isEnd ·), rest.dropWhile (!isEnd ·))
  | s => ([], s)

/-- The text up to the last `@`, if there is one, and the text after it. -/
def cutUser (s : List Char) : List Char × List Char :=
  if s.contains '@' then
    let tail := (s.reverse.takeWhile (· != '@')).reverse
    (s.take (s.length - tail.length - 1), tail)
  else ([], s)

/-- The host and the port of an authority without its user. -/
def cutPort (s : List Char) : List Char × List Char :=
  let plain := s.takeWhile (· != ':')
  let colonFree (rest : List Char) : List Char := match rest with
    | ':' :: rest => rest
    | rest => rest
  match s with
  | '[' :: _ =>
    if s.contains ']' then
      let tail := (s.reverse.takeWhile (· != ']')).reverse
      (s.take (s.length - tail.length), colonFree tail)
    else (plain, colonFree (s.drop plain.length))
  | _ => (plain, colonFree (s.drop plain.length))

/-- Whether the path fits to what stands before it. -/
def isPathFor (hasScheme hasAuthority : Bool) (path : List Char) : Bool :=
  if hasAuthority then path.isEmpty || path.head? == some '/'
  else hasScheme || !(path.take 2 == ['/', '/'] || path.head? == some ':')

/-- The longest address that is read. -/
def longest : Nat := 65536

/-- Reads an address. -/
def parse? (s : List Char) : Option Url :=
  if longest < s.length || s.any (fun c => c.toNat < 0x20 || c.toNat = 0x7F) then none
  else do
    let (written, rest) := takeScheme s
    let scheme := written.map Char.toLower
    let (authority, rest) := takeAuthority rest
    let (user, place) := cutUser authority
    let (host, port) := cutPort place
    let path := rest.takeWhile fun c => c != '?' && c != '#'
    let rest := rest.drop path.length
    let query := match rest with
      | '?' :: rest => some (rest.takeWhile (· != '#'))
      | _ => none
    let fragment := match rest.dropWhile (· != '#') with
      | '#' :: rest => some rest
      | _ => none
    let host ← hostOf? host
    let port ← portOf? written port
    let hasScheme := !scheme.isEmpty
    let hasAuthority := !user.isEmpty || !host.isEmpty || port.isSome
    if !isPathFor hasScheme hasAuthority path then none
    else
      let path := if hasScheme || hasAuthority then normalPath path else path
      some { scheme, user := quote isUserSafe user, host, port, path := quote isPathSafe path
             query := query.map (quote isQuerySafe), fragment := fragment.map (quote isFragmentSafe) }

/-! ## Views -/

/-- Whether the address tells where to go without another one. -/
def isAbsolute (u : Url) : Bool := !u.scheme.isEmpty && !u.host.isEmpty

/-- An address that tells where to go, or one that begins at the root of an unknown place. -/
def rooted (u : Url) : Url :=
  if u.isAbsolute then u
  else { path := '/' :: u.path.dropWhile (· == '/'), query := u.query }

/-- The host and the port. -/
def place (u : Url) : List Char :=
  let host := if u.host.contains ':' then '[' :: u.host ++ [']'] else u.host
  host ++ (match u.port with
    | none => []
    | some n => ':' :: Numeric.intText n)

def authority (u : Url) : List Char :=
  (if u.user.isEmpty then [] else u.user ++ ['@']) ++ u.place

/-- What keeps the host from being a name, if it is one of Punycode. -/
def hostFault? (u : Url) : Option DomainName.Fault :=
  if DomainName.punycodeMark.isPrefixOf u.host then DomainName.readFault? u.host else none

/-- The bytes of a text whose escapes are undone. -/
def plainBytes : List Char → List UInt8
  | '%' :: a :: b :: rest =>
    match hexValue? a, hexValue? b with
    | some a, some b => UInt8.ofNat (a * 16 + b) :: plainBytes rest
    | _, _ => '%'.toUInt8 :: plainBytes (a :: b :: rest)
  | c :: rest => (String.singleton c).toUTF8.toList ++ plainBytes rest
  | [] => []

/-- A part without escapes. -/
def plain (s : List Char) : List Char := Utf8.mend (plainBytes s)

/-- The path without escapes; a slash if it is empty. -/
def plainPath (u : Url) : String :=
  if u.path.isEmpty then "/" else String.ofList (plain u.path)

/-- What a request carries for the user and the password in front of the host, if there are any. -/
def authorization? (u : Url) : Option String :=
  let name := u.user.takeWhile (· != ':')
  let password := (u.user.drop name.length).drop 1
  if name.isEmpty && password.isEmpty then none
  else
    let both := String.ofList (plain name ++ ':' :: plain password)
    some ("Basic " ++ String.ofList (Base64.encode both.toUTF8.toList))

/-- The address as text. -/
def text (u : Url) : String :=
  let scheme := if u.scheme.isEmpty then [] else u.scheme ++ [':']
  let authority := if u.authority.isEmpty then [] else '/' :: '/' :: u.authority
  String.ofList (scheme ++ authority ++ u.path ++ (u.query.elim [] ('?' :: ·))
    ++ (u.fragment.elim [] ('#' :: ·)))

end Url

end MovePlan.Host
