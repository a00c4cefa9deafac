import MovePlan.Storage.FileTree
import MovePlan.Json.Writer
import MovePlan.Text.Word

/-!
# Journals

The journal of a run is a directory with three files: a description of the run as one object, the
events of the run and the rows of its steps, one JSON object a line. The directory is named after the
run, with an underscore for every character that is no letter, number, hyphen, underscore or dot.

A row is written after its file was opened, which makes the file if it is missing. So a row that cannot
be written, because it has an integer with too many digits, may leave an empty file behind.
-/

namespace MovePlan.Flow

open Storage Text

/-- The longest name of a run's directory, in characters. -/
def longestRunName : Nat := 120

/-- Whether a character may stand in the name of a run's directory. -/
def isNameChar (c : Char) : Bool := isAlphanumeric c || c == '-' || c == '_' || c == '.'

/-- The name of the directory of a run. -/
def directoryName (run : String) : String :=
  String.ofList ((run.toList.map fun c => if isNameChar c then c else '_').take longestRunName)

/-- Something to be written into a journal. -/
inductive Entry where
  /-- The description of the run; a later one takes the place of an earlier one. -/
  | description (j : Json)
  /-- Something that happened; its name is a text as a rule. -/
  | event (name : Json) (fields : Json.Fields)
  | step (row : Json)
  deriving Inhabited

/-- The names that no field of an event may have. -/
def reservedFields : List String := ["name", "self"]

/-- An event with the given fields. -/
def Entry.ofFields (name : Json) (fields : Json.Fields) : Except Error Entry :=
  if fields.any fun f => reservedFields.contains f.1 then .error .wrongType
  else .ok (.event name fields)

/-- The row of an event: the time, the event's name, and its fields, which may replace both. -/
def eventRow (time : Int) (name : Json) (fields : Json.Fields) : Json :=
  .obj (Json.ofFields ([("t", .int time), ("event", name)] ++ fields))

/-- What is written for an entry at the given time. -/
def Entry.toJson (time : Int) : Entry → Json
  | description d => d
  | event name fields => eventRow time name fields
  | step row => row

/-- Whether an entry can be written. The time does not matter, since every time has a text. -/
def Entry.isWritable (e : Entry) : Bool := (e.toJson 0).isWritable

/-- A row of a file of rows. -/
def rowText (row : Json) : String := row.line ++ "\n"

/-- A journal in its directory. -/
structure Journal where
  root : Path
  deriving DecidableEq, Repr, Inhabited

namespace Journal

/-- Opens the journal of a run below a directory, which is made if it is missing. -/
def openIn (base : String) (run : String) (t : FileTree) : Except Error (Journal × FileTree) := do
  let root := Path.parse base ++ Path.parse (directoryName run)
  let t ← t.ensureDirectory root
  return (⟨root⟩, t)

def descriptionFile (j : Journal) : Path := j.root ++ ["run_metadata.json"]

def eventsFile (j : Journal) : Path := j.root ++ ["events.jsonl"]

def stepsFile (j : Journal) : Path := j.root ++ ["steps.jsonl"]

/-- Opens a file and writes a row at its end. -/
def appendRow (p : Path) (row : Json) (t : FileTree) : Except Error Unit × FileTree :=
  match t.append p (if row.isWritable then rowText row else "") with
  | .ok t => (if row.isWritable then .ok () else .error .tooManyDigits, t)
  | .error e => (.error e, t)

/-- Replaces the text of a file by that of a description, which is made before the file is opened. -/
def replaceBlock (p : Path) (d : Json) (t : FileTree) : Except Error Unit × FileTree :=
  if d.isWritable then
    match t.write p (d.block ++ "\n") with
    | .ok t => (.ok (), t)
    | .error e => (.error e, t)
  else (.error .tooManyDigits, t)

/-- Writes an entry at the given time. -/
def write (j : Journal) (time : Int) (e : Entry) (t : FileTree) : Except Error Unit × FileTree :=
  match e with
  | .description d => replaceBlock j.descriptionFile d t
  | .event name fields => appendRow j.eventsFile (eventRow time name fields) t
  | .step row => appendRow j.stepsFile row t

/-- Writes entries one after the other, each at a time of its own, up to the first that cannot be
written. -/
def writeEach (j : Journal) : List (Int × Entry) → FileTree → Except Error Unit × FileTree
  | [], t => (.ok (), t)
  | e :: rest, t =>
    match j.write e.1 e.2 t with
    | (.ok (), t) => writeEach j rest t
    | (.error err, t) => (.error err, t)

end Journal

end MovePlan.Flow
