import MovePlan.Host.Url
import MovePlan.Json.Writer
import MovePlan.Node.Exchange

/-!
# A transport

One way to get requests to a node, for running the program: it reads the address, refuses what cannot
be sent, and leaves the rest to a wire. Nothing else depends on how it does so.
-/

namespace MovePlan.Host

open Node

/-- A request with the address that was read from it. -/
structure Letter where
  request : Request
  url : Url

/-- What goes over the network, with a state of its own. -/
abbrev Wire (σ : Type) := Letter → σ → Reply × σ

/-- What the letter carries to be let in. A user in the address goes before the key of the client. -/
def Letter.authorization (l : Letter) : Option String :=
  l.url.authorization?.or (l.request.headers.lookup "Authorization")

/-! ## What is refused -/

/-- A text that cannot be put into a field of ASCII. -/
def beyondAscii (s : List Char) : Error :=
  .foreign "UnicodeEncodeError" true (describeBeyondAscii s)

/-- What the fault of a name is raised as. -/
def DomainName.Fault.word : DomainName.Fault → String
  | notAllowed .. => "InvalidCodepoint"
  | outOfContext .. => "InvalidCodepointContext"
  | unknownDirection .. | firstDirection _ | rightToLeftDirection _ | mixedNumerals
  | leftToRightDirection _ | lastDirection => "IDNABidiError"
  | _ => "IDNAError"

/-- Whether all numbers in a value are finite. -/
def allFinite : Json → Bool
  | .float x => match x with
    | .finite .. => true
    | _ => false
  | .arr xs => xs.attach.all fun x => allFinite x.1
  | .obj fs => fs.attach.all fun f => allFinite f.1.2
  | _ => true
termination_by j => sizeOf j
decreasing_by
  · have := List.sizeOf_lt_of_mem x.2
    simp only [Json.arr.sizeOf_spec]; omega
  · have h1 := List.sizeOf_lt_of_mem f.2
    have h2 : sizeOf f.1.2 < sizeOf f.1 := by
      cases f.1; simp only [Prod.mk.sizeOf_spec]; omega
    simp only [Json.obj.sizeOf_spec]; omega

/-- What keeps a body from being written. -/
def bodyFault? (body : Json) : Option Error :=
  if !allFinite body then
    some (.foreign "ValueError" true "Out of range float values are not JSON compliant")
  else if !body.isWritable then some .tooManyDigits
  else none

/-- What keeps a letter from being sent. -/
def obstacle? (l : Letter) : Option Error :=
  match (l.request.headers.map Prod.snd).find? fun v => !v.toList.all isAscii with
  | some v => some (beyondAscii v.toList)
  | none =>
    (l.request.body.bind bodyFault?).or
      (match l.url.hostFault? with
      | some fault => some (.foreign fault.word true fault.message)
      | none => if l.url.place.all isAscii then none else some (beyondAscii l.url.place))

/-! ## Sending -/

/-- Sends requests over a wire. An address that cannot be read is not asked; one that does not tell how
to get there is refused after the answer. -/
def transportOver {σ : Type} (wire : Wire σ) : Transport σ := fun request s =>
  match Url.parse? request.url.toList with
  | none => (.error (.foreign "InvalidURL" false ""), s)
  | some url =>
    let l : Letter := ⟨request, url.rooted⟩
    match obstacle? l with
    | some e => (.error e, s)
    | none =>
      match wire l s with
      | (.answer status body, s) =>
        if l.url.isAbsolute then (.ok (.answer status body), s)
        else (.error (.foreign "ValueError" true s!"unknown url type: {Error.shown l.url.text}"), s)
      | (reply, s) => (.ok reply, s)

end MovePlan.Host
