import MovePlan.Storage.FileTree
import MovePlan.Json.Coerce
import MovePlan.Json.Writer
import MovePlan.Plan.Decode
import MovePlan.Plan.Repair

/-!
# Documents in files

JSON files that are read and written whole. A reader that insists reports whatever is wrong; one that
does not takes null for a file that is not there, cannot be read, or is not JSON. Bytes that are no
text are an error for both.
-/

namespace MovePlan.Storage

namespace FileTree

/-- The text of a file; none if it cannot be read and that is no error. -/
def readText? (t : FileTree) (path : String) (insist : Bool) : Except Error (Option String) :=
  match t.read (Path.parse path) with
  | .ok text => .ok (some text)
  | .error e => if isStorageFault e && !insist then .ok none else .error e

/-- The document in a file. -/
def readJson (t : FileTree) (path context : String) (insist : Bool) : Except Error Json := do
  if !(← t.isThere (Path.parse path)) then
    if insist then throw (.fileNotFound (Path.parse path).text context) else return .null
  match ← t.readText? path insist with
  | none => return .null
  | some text =>
    match Json.load context Json.snippetWidth text with
    | .ok j => return j
    | .error e => if insist then throw e else return .null

/-- The text that a document is written as; it has none if one of its integers has none. -/
def documentText (j : Json) : Except Error String :=
  if j.isWritable then .ok (j.block ++ "\n") else .error .tooManyDigits

/-- Writes a document all or nothing. -/
def writeJson (t : FileTree) (path : String) (j : Json) : Except Error Unit × FileTree :=
  match documentText j with
  | .ok text => t.writeWhole (Path.parse path) text
  | .error e => (.error e, t)

/-- The plan in a file, repaired first if that is wanted, and the corrections made. -/
def readPlan (t : FileTree) (path : String) (repair : Bool) :
    Except Error (Plan.Document × List Plan.Correction) := do
  let j ← t.readJson path "plan" true
  let (j, corrections) := if repair then Plan.repair j else (j, [])
  return (← Plan.decode j, corrections)

end FileTree

end MovePlan.Storage
