import MovePlan.Host.DomainName.Letters
import MovePlan.Host.Composed
import MovePlan.Host.Punycode
import MovePlan.Text.Case
import MovePlan.Host.Ascii
import MovePlan.Text.Quoted

/-!
# Domain names

A name is a row of labels with points between them. A label of letters beyond ASCII is sent as the
letters `xn--` and its Punycode. Not every label is a name: it has to be composed, its characters have
to be letters, marks or digits, some of them only among certain neighbours, and a label with letters
that are written from right to left has to be readable in one way only.
-/

namespace MovePlan.Host.DomainName

open Text

/-- What is wrong with a name. Positions count from one. -/
inductive Fault where
  | emptyName
  | emptyLabel
  | nameTooLong
  | labelTooLong
  | notComposed
  | hyphensInside
  | hyphenAtEnd
  | leadingMark
  /-- A joiner among neighbours that it does not join. -/
  | strayJoiner (c : Char) (position : Nat) (label : List Char)
  /-- A character that needs other neighbours. -/
  | outOfContext (c : Char) (position : Nat) (label : List Char)
  | notAllowed (c : Char) (position : Nat) (label : List Char)
  /-- Nothing behind the letters that tell that Punycode follows. -/
  | noPunycode
  | hyphenBehindPunycode
  | notPunycode
  | unknownDirection (position : Nat) (label : List Char)
  | firstDirection (label : List Char)
  | rightToLeftDirection (position : Nat)
  | mixedNumerals
  | leftToRightDirection (position : Nat)
  | lastDirection
  deriving DecidableEq, Repr

/-- The code point of a character, as messages tell it. -/
def shownCode (c : Char) : String := "U+" ++ String.ofList (upperHexText c.toNat)

/-- What is wrong, in words. -/
def Fault.message : Fault → String
  | emptyName => "Empty domain"
  | emptyLabel => "Empty Label"
  | nameTooLong => "Domain too long"
  | labelTooLong => "Label too long"
  | notComposed => "Label must be in Normalization Form C"
  | hyphensInside => "Label has disallowed hyphens in 3rd and 4th position"
  | hyphenAtEnd => "Label must not start or end with a hyphen"
  | leadingMark => "Label begins with an illegal combining character"
  | strayJoiner c position label =>
    s!"Unknown codepoint adjacent to joiner {shownCode c} at position {position} in {shown label}"
  | outOfContext c position label =>
    s!"Codepoint {shownCode c} not allowed at position {position} in {shown label}"
  | notAllowed c position label =>
    s!"Codepoint {shownCode c} at position {position} of {shown label} not allowed"
  | noPunycode => "Malformed A-label, no Punycode eligible content found"
  | hyphenBehindPunycode => "A-label must not end with a hyphen"
  | notPunycode => "Invalid A-label"
  | unknownDirection position label =>
    s!"Unknown directionality in label {shown label} at position {position}"
  | firstDirection label =>
    s!"First codepoint in label {shown label} must be directionality L, R or AL"
  | rightToLeftDirection position =>
    s!"Invalid direction for codepoint at position {position} in a right-to-left label"
  | mixedNumerals => "Can not mix numeral types in a right-to-left label"
  | leftToRightDirection position =>
    s!"Invalid direction for codepoint at position {position} in a left-to-right label"
  | lastDirection => "Label ends with illegal codepoint directionality"
where
  shown (label : List Char) : String := String.ofList (quoted label)

/-! ## Joiners and other characters with conditions -/

/-- The class of marks that silence the vowel of a letter. -/
def silencerClass : Nat := 9

/-- The mark that keeps letters from joining. -/
def nonJoiner : Char := Char.ofNat 0x200C

/-- The mark that lets letters join. -/
def joiner : Char := Char.ofNat 0x200D

/-- Whether the first of the characters that has a say in joining lies in one of the ranges. -/
def joinsBy (joining : Ranges) : List Char → Bool
  | [] => false
  | c :: rest =>
    if transparentRanges.holds c.toNat then joinsBy joining rest
    else joiningRanges.holds c.toNat || joining.holds c.toNat

/-- Whether a joiner fits between the text before it, read backward, and the text after it. -/
def isJoinerBetween (c : Char) (before after : List Char) : Bool :=
  let silenced := before.head?.any fun b => markClass b.toNat = silencerClass
  if c = joiner then silenced
  else silenced || (joinsBy leftJoiningRanges before && joinsBy rightJoiningRanges after)

def isArabicDigit (c : Char) : Bool := 0x660 ≤ c.toNat && c.toNat ≤ 0x669

def isExtendedDigit (c : Char) : Bool := 0x6F0 ≤ c.toNat && c.toNat ≤ 0x6F9

/-- The condition for a character that has one, between the text before it, read backward, and the
text after it. -/
def contextRule? (c : Char) (before after : List Char) : Option Bool :=
  let any (ranges : Ranges) (c : Option Char) : Bool := c.any fun c => ranges.holds c.toNat
  let label := before ++ after
  if c.toNat = 0xB7 then some (before.head? == some 'l' && after.head? == some 'l')
  else if c.toNat = 0x375 then some (any greekRanges after.head?)
  else if c.toNat = 0x5F3 ∨ c.toNat = 0x5F4 then some (any hebrewRanges before.head?)
  else if c.toNat = 0x30FB then
    some (label.any fun d => d != c
      && (hiraganaRanges.holds d.toNat || katakanaRanges.holds d.toNat || hanRanges.holds d.toNat))
  else if isArabicDigit c then some (!label.any isExtendedDigit)
  else if isExtendedDigit c then some (!label.any isArabicDigit)
  else none

/-- What is wrong with the characters of a label; `before` holds those that are fine, backward. -/
def characterFault? (label before : List Char) : List Char → Option Fault
  | [] => none
  | c :: after =>
    let position := before.length + 1
    if letterRuns.any (·.holds c.toNat) then characterFault? label (c :: before) after
    else if c = nonJoiner ∨ c = joiner then
      if isJoinerBetween c before after then characterFault? label (c :: before) after
      else some (.strayJoiner c position label)
    else match contextRule? c before after with
      | some true => characterFault? label (c :: before) after
      | some false => some (.outOfContext c position label)
      | none => some (.notAllowed c position label)

/-! ## Directions -/

/-- Whether a direction is one of letters and numbers from right to left. -/
def isRightToLeft (d : Direction) : Bool := d = .rightToLeft || d = .arabic || d = .arabicNumber

/-- The place of the first element with a property, counted from one. -/
def positionOf? {α : Type} (p : α → Bool) (s : List α) : Option Nat := (s.findIdx? p).map (· + 1)

/-- The last direction that is not one of marks. -/
def lastDirection? (ds : List Direction) : Option Direction := ds.reverse.find? (· != .mark)

/-- What is wrong with a label that begins from right to left. -/
def rightToLeftFault? : (position : Nat) → (numeral : Option Direction) → List Direction →
    Option Fault
  | _, _, [] => none
  | position, numeral, d :: ds =>
    if d = .leftToRight then some (.rightToLeftDirection position)
    else if d = .arabicNumber ∨ d = .europeanNumber then
      if numeral.all (· = d) then rightToLeftFault? (position + 1) (some d) ds
      else some .mixedNumerals
    else rightToLeftFault? (position + 1) numeral ds

/-- What is wrong with the directions in a label. Where nothing is written from right to left there is
no rule. -/
def directionFault? (label : List Char) : Option Fault :=
  let ds := label.map directionOf
  match positionOf? (· = .unknown) ds with
  | some position => some (.unknownDirection position label)
  | none =>
    if !ds.any isRightToLeft then none
    else match ds with
      | .rightToLeft :: _ | .arabic :: _ =>
        match rightToLeftFault? 1 none ds with
        | some fault => some fault
        | none =>
          if (lastDirection? ds).any fun d => isRightToLeft d || d = .europeanNumber then none
          else some .lastDirection
      | .leftToRight :: _ => (positionOf? isRightToLeft ds).map .leftToRightDirection
      | _ => some (.firstDirection label)

/-! ## Labels -/

/-- The longest name, in characters, with a point at its end. -/
def longestName : Nat := 254

/-- The longest label, in characters of ASCII. -/
def longestLabel : Nat := 63

/-- The letters that tell that Punycode follows. -/
def punycodeMark : List Char := ['x', 'n', '-', '-']

/-- What is wrong with a label. -/
def labelFault? (label : List Char) : Option Fault :=
  if label.isEmpty then some .emptyLabel
  else if longestName < label.length then some .labelTooLong
  else if !isComposed label then some .notComposed
  else if (label.drop 2).take 2 = ['-', '-'] then some .hyphensInside
  else if label.head? = some '-' ∨ label.getLast? = some '-' then some .hyphenAtEnd
  else if label.head?.any fun c => markRanges.holds c.toNat then some .leadingMark
  else (characterFault? label [] label).or (directionFault? label)

/-- The fault, if there is one, or the label. -/
def checked (label : List Char) : Except Fault (List Char) :=
  match labelFault? label with
  | some fault => .error fault
  | none => .ok label

/-- The label that a label of ASCII stands for. -/
def readLabel (label : List Char) : Except Fault (List Char) :=
  let label := label.map Char.toLower
  if punycodeMark.isPrefixOf label then
    let code := label.drop punycodeMark.length
    if code.isEmpty then .error .noPunycode
    else if code.getLast? = some '-' then .error .hyphenBehindPunycode
    else match Punycode.decode? code with
      | none => .error .notPunycode
      | some label => checked label
  else checked label

/-- A label as it is sent. -/
def writeLabel (label : List Char) : Except Fault (List Char) := do
  let sent ←
    if label.all isAscii then (readLabel label).map fun _ => label
    else (checked label).map fun label => punycodeMark ++ Punycode.encode label
  if longestLabel < sent.length then throw .labelTooLong
  return sent

/-! ## Names -/

/-- Whether a character stands between labels: the point, and those of wide scripts. -/
def isSeparator (c : Char) : Bool := [0x2E, 0x3002, 0xFF0E, 0xFF61].contains c.toNat

/-- The labels of a name; at least one. -/
def labels : List Char → List (List Char)
  | [] => [[]]
  | c :: rest =>
    match labels rest with
    | [] => [[c]]
    | label :: later => if isSeparator c then [] :: label :: later else (c :: label) :: later

/-- The labels of a name, without the empty one behind a point at its end. -/
def namedLabels (name : List Char) : Except Fault (List (List Char)) := do
  if longestName < name.length then throw .nameTooLong
  let parts := labels name
  if parts = [[]] then throw .emptyName
  return if parts.getLast? = some [] then parts.dropLast else parts

/-- What is wrong with a name of ASCII as it is sent. -/
def readFault? (name : List Char) : Option Fault :=
  match namedLabels name >>= fun parts => parts.mapM readLabel with
  | .ok _ => none
  | .error fault => some fault

/-- A name as it is sent. -/
def write (name : List Char) : Except Fault (List Char) := do
  let name := lower name
  let sent ← (← namedLabels name).mapM writeLabel
  let dotted := name.getLast?.any isSeparator
  let joined := List.intercalate ['.'] sent ++ (if dotted then ['.'] else [])
  if (if dotted then longestName else longestName - 1) < joined.length then throw .nameTooLong
  return joined

end MovePlan.Host.DomainName
