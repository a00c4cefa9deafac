import MovePlan.Cli.Run
import MovePlan.Host.Console
import MovePlan.Host.Http

/-!
# The program

The thin layer around `Cli.run`: it fetches the environment and the files that an order names, prints
the answer and writes the file. There is no way to the network here, so that a node is told to be out
of reach.
-/

namespace MovePlan.Program

open Cli

/-- The files that an order reads. -/
def filesRead (order : Order) : List String :=
  match order.command with
  | .validate plan _ settingsFile => plan :: settingsFile.toList
  | .analyze outcome _ plan _ => outcome :: plan.toList
  | .diagnose .. => []

/-- The files that a command line names. -/
def filesNamed (argv : List String) : List String :=
  match readOrder argv with
  | .done order => filesRead order ++ order.sink.file.toList
  | _ => []

/-- What stands at a path. -/
def fetch (path : String) : IO (Option Storage.Node) := do
  try
    let bytes ← IO.FS.readBinFile path
    return some (.file (.bytes bytes.toList))
  catch _ =>
    try
      let _ ← IO.FS.readFile (path ++ "/.")
      return none
    catch
      | .inappropriateType .. => return some .directory
      | _ => return none

/-- The files that a command line names, as far as they are there. -/
def fetchAll (paths : List String) : IO Storage.FileTree := do
  let mut tree : Storage.FileTree := {}
  for path in paths do
    match ← fetch path with
    | some node => tree := tree.place (Storage.Path.parse path) node
    | none => pure ()
  return tree

/-- The settings that the environment gives. -/
def environment : IO Config.Assignments := do
  let names := [Config.nodeUrlName, Config.apiKeyName, Config.timeoutName]
  let values ← names.mapM fun name => do return (name, ← IO.getEnv name)
  return values.filterMap fun v => v.2.map fun value => (v.1, value)

/-- A network that leads nowhere. -/
def outOfReach : Host.Wire Unit := fun _ s => (.failed "no way to the network", s)

/-- The directories above a file. -/
def above (path : String) : String :=
  String.ofList (path.toList.reverse.dropWhile (· != '/')).reverse

/-- Writes the file that an order names. -/
def store (files : Storage.FileTree) (path : String) : IO Unit := do
  match files.read (Storage.Path.parse path) with
  | .ok text =>
    if above path != "" then IO.FS.createDirAll (above path)
    IO.FS.writeFile path text
  | .error _ => pure ()

/-- Prints a result and stores its file. -/
def finish (argv : List String) (r : Result Unit) : IO UInt32 := do
  match readOrder argv with
  | .done order =>
    match order.sink.file with
    | some path => store r.files path
    | none => pure ()
  | _ => pure ()
  IO.print r.stdout
  return r.exitCode.toUInt32

/-- Runs a command line in the world around the program. -/
def main (argv : List String) : IO UInt32 := do
  let env ← environment
  match Config.Settings.defaultsIn env with
  | .error e => IO.eprintln e.message; return 1
  | .ok defaults =>
    let tree ← fetchAll (filesNamed argv)
    match run ⟨defaults, env, tree, Host.transportOver outOfReach, Host.console, ()⟩ argv with
    | .ok r => finish argv r
    | .error e => IO.eprintln ("error: " ++ e.message); return 1

end MovePlan.Program

def main (argv : List String) : IO UInt32 := MovePlan.Program.main argv
