import MovePlan.Cli.Arguments

/-!
# Commands

Three commands: a plan is validated against a node, the outcome of a simulation is analyzed, or a
status is diagnosed. Each writes its result for readers or as JSON, and the JSON into a file if one is
named.
-/

namespace MovePlan.Cli

/-- Where the result goes. -/
structure Sink where
  asJson : Bool
  /-- The file to write the JSON into. -/
  file : Option String
  deriving DecidableEq, Repr

/-- What is asked for. -/
inductive Command where
  | validate (plan : String) (nodeUrl settingsFile : Option String)
  | analyze (outcome owner : String) (plan vaultProtocol : Option String)
  | diagnose (status : String) (step : Option String)
  deriving DecidableEq, Repr

/-- A command and where its result goes. -/
structure Order where
  command : Command
  sink : Sink
  deriving DecidableEq, Repr

/-! ## Options -/

def helpOption : OptionSpec := ⟨"help", .help, some 'h'⟩

/-- The options before the command. -/
def frontOptions : List OptionSpec := [helpOption, ⟨"verbose", .flag, some 'v'⟩]

/-- The options that every command has. -/
def sinkOptions : List OptionSpec := [helpOption, ⟨"json", .flag, none⟩, ⟨"out", .value, none⟩]

def valueOption (name : String) : OptionSpec := ⟨name, .value, none⟩

def validateOptions : List OptionSpec :=
  sinkOptions ++ [valueOption "node-url", valueOption "env-file"]

def analyzeOptions : List OptionSpec :=
  sinkOptions ++ [valueOption "owner", valueOption "plan", valueOption "vault-protocol"]

def diagnoseOptions : List OptionSpec := sinkOptions ++ [valueOption "step"]

/-! ## Reading a command line -/

/-- The command's name, the arguments after it, and whether anything before it is left over. -/
def readFront (stray : Bool) : List Argument → List String → Read (String × List String × Bool)
  | .word _ :: _, name :: rest => .done (name, rest, stray)
  | .unknown :: ts, _ :: rest => readFront true ts rest
  | .option o attached :: ts, _ :: rest =>
    match flagsOf frontOptions o attached with
    | none => .wrong
    | some os =>
      if os.any fun o => o.effect == .help then .help else readFront stray ts rest
  | _, _ => .wrong

/-- The order that a command's arguments make, if none is missing. -/
def orderOf? (name : String) (g : Given) : Option Order := do
  let word ← g.word
  let sink : Sink := ⟨g.hasFlag "json", g.value? "out"⟩
  match name with
  | "validate" => some ⟨.validate word (g.value? "node-url") (g.value? "env-file"), sink⟩
  | "analyze" =>
    let owner ← g.value? "owner"
    some ⟨.analyze word owner (g.value? "plan") (g.value? "vault-protocol"), sink⟩
  | "diagnose" => some ⟨.diagnose word (g.value? "step"), sink⟩
  | _ => none

/-- The options of a command. -/
def optionsOf? (name : String) : Option (List OptionSpec) :=
  match name with
  | "validate" => some validateOptions
  | "analyze" => some analyzeOptions
  | "diagnose" => some diagnoseOptions
  | _ => none

/-- Reads the arguments of the named command. -/
def readCommand (name : String) (argv : List String) (stray : Bool) : Read Order :=
  match optionsOf? name with
  | none => .wrong
  | some specs =>
    match readArguments specs argv with
    | .help => .help
    | .wrong => .wrong
    | .done g =>
      if stray || g.stray then .wrong
      else match orderOf? name g with
        | some order => .done order
        | none => .wrong

/-- Reads a command line. -/
def readOrder (argv : List String) : Read Order :=
  match arguments frontOptions (argv.map String.toList) with
  | none => .wrong
  | some ts =>
    match readFront false ts argv with
    | .help => .help
    | .wrong => .wrong
    | .done (name, rest, stray) => readCommand name rest stray

/-- What is shown to who asks for help. -/
def helpText : String :=
  "usage: [-h] [-v] validate PLAN [--node-url URL] [--env-file FILE] [--json] [--out FILE]\n" ++
  "       [-h] [-v] analyze OUTCOME --owner OWNER [--plan PLAN] [--vault-protocol ADDRESS]\n" ++
  "                 [--json] [--out FILE]\n" ++
  "       [-h] [-v] diagnose STATUS [--step STEP] [--json] [--out FILE]\n"

end MovePlan.Cli
