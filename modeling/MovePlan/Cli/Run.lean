import MovePlan.Cli.Command
import MovePlan.Cli.Display
import MovePlan.Storage.Documents
import MovePlan.Node.Client
import MovePlan.Validation.Validator
import MovePlan.Diagnosis.Rules

/-!
# Running commands

A command reads files, may ask a node, and answers with text, an exit code and perhaps a file. What is
wrong with the input is told in a line and ends with the code two; a result that is not good ends with
one. Faults that are no news about the input are errors of the run, and so is what cannot be shown.
-/

namespace MovePlan.Cli

open Storage Simulation Tracking Diagnosis Validation Config Node Numeric

/-- What a command works in. -/
structure Surroundings (σ : Type) where
  /-- The settings where nothing else is given. -/
  defaults : Settings
  env : Assignments
  files : FileTree
  transport : Transport σ
  console : Console
  state : σ

/-- What came of a command. -/
structure Result (σ : Type) where
  exitCode : Nat
  stdout : String
  files : FileTree
  state : σ

/-- The exit code for wrong arguments and wrong input. -/
def wrongCode : Nat := 2

/-- The exit code of a result that is good or not. -/
def codeOf (good : Bool) : Nat := if good then 0 else 1

/-- Whether an error tells something about the input, so that it is reported and not raised. -/
def isReported : Error → Bool
  | .isDirectory _ | .notDirectory _ | .alreadyExists _ | .nameTooLong _ | .busy _ | .wrongType
  | .missingAttribute | .overflow | .divisionByZero => false
  | .foreign _ ofValue _ => ofValue
  | _ => true

/-! ## What is shown of results -/

/-- What is shown of findings. -/
def findingsShown (fs : List Finding) : Display :=
  if fs.isEmpty then .line (styled "green" "No findings.")
  else .table
    { title := "Validation Findings"
      columns := [⟨"Step", some "cyan", false⟩, ⟨"Code", none, false⟩, ⟨"Message", some "dim", false⟩]
      rows := fs.map fun f =>
        [f.step, styled (if f.isHard then "red" else "yellow") f.code, f.message] }

/-- What is shown of diagnoses: a table of them, and what to do about them in a panel. -/
def diagnosesShown (ds : List Diagnosis) : List Display :=
  if ds.isEmpty then [.line (styled "green" "No errors diagnosed.")]
  else
    let table : Table :=
      { title := "Diagnosis"
        columns := [⟨"Code", some "red", false⟩, ⟨"Title", none, false⟩, ⟨"Detail", some "dim", false⟩,
          ⟨"Step", none, false⟩]
        rows := ds.map fun d => [d.code, d.title, d.detail, d.step.text?.getD ""] }
    let advice := ds.map fun d => styled "bold" (d.code ++ ":") ++ " " ++ d.suggestion
    [.table table, .panel ⟨styled "yellow" "Suggestions", "\n".intercalate advice, "yellow"⟩]

/-- The table of events. -/
def eventsShown (es : List Event) : Except Error Display := do
  let rows ← es.mapM fun e => do
    let amount ← e.amount.elim (.ok "") writeInt
    return [e.shortType, amount]
  return .table
    { title := "Events"
      columns := [⟨"Type", some "cyan", false⟩, ⟨"Amount", none, true⟩]
      rows }

/-- The row of a token's balance. -/
def balanceRow (balances : Balances) (t : Token) : Except Error (List String) :=
  match balances.get? t.metadata with
  | none => .ok [t.symbol, styled "dim" "unchanged"]
  | some n => (formatAmount n t.decimals).map fun s => [t.symbol, String.ofList s]

/-- The table of an owner's balances. -/
def balancesShown (owner : String) (tokens : List Token) (balances : Balances) :
    Except Error Display := do
  let rows ← tokens.mapM (balanceRow balances)
  return .table
    { title := "Balances of " ++ owner
      columns := [⟨"Token", some "cyan", false⟩, ⟨"After", none, true⟩]
      rows }

/-- The line about the position. -/
def vaultShown (v : Option Vault) : Except Error Display :=
  match v with
  | none => .ok (.line (styled "dim" "Vault: not touched"))
  | some v =>
    if !v.present then .ok (.line ("Vault: " ++ styled "yellow" "deleted"))
    else do
      let collateral ← writeInt v.collateral
      let debt ← writeInt v.debt
      return .line s!"Vault: collateral={collateral} debt={debt}"

/-! ## Results -/

/-- Writes a result to where it goes: as JSON its JSON, into the file first, else what is shown of it,
and the JSON into the file then. -/
def deliver {σ : Type} (sink : Sink) (code : Nat) (j : Json) (shown : Except Error String)
    (files : FileTree) (state : σ) : Except Error (Result σ) := do
  let shown ← if sink.asJson then FileTree.documentText j else shown
  match sink.file with
  | none => return ⟨code, shown, files, state⟩
  | some path =>
    match files.writeJson path j with
    | (.ok (), files) => return ⟨code, shown, files, state⟩
    | (.error e, _) => throw e

/-- What is shown of an error about the input. -/
def errorShown (e : Error) : Display := .line (styled "red" "error:" ++ " " ++ e.message)

/-- Reports an error about the input; others are raised. -/
def report {σ : Type} (c : Console) (e : Error) (files : FileTree) (state : σ) :
    Except Error (Result σ) :=
  if isReported e then (c (errorShown e)).map fun shown => ⟨wrongCode, shown, files, state⟩
  else .error e

variable {σ : Type}

/-! ## Validation -/

/-- The settings of a command, with an address that replaces the one found elsewhere. -/
def settingsFor (s : Surroundings σ) (nodeUrl settingsFile : Option String) :
    Except Error Settings := do
  let settings ← Settings.load s.defaults s.env s.files settingsFile
  match filled nodeUrl with
  | none => return settings
  | some url => return { settings with nodeUrl := withoutSlashes url }

/-- The report on a plan in a file and the corrections made in it. -/
def validateFile (s : Surroundings σ) (settings : Settings) (plan : String) :
    Except Error (Report × List Plan.Correction) × σ :=
  match s.files.readPlan plan true with
  | .error e => (.error e, s.state)
  | .ok (p, corrections) =>
    let source := (Client.ofSettings settings).source s.transport
    let (report, desk) := validate source p.graph ⟨{}, { transport := s.state }⟩
    (report.map fun r => (r, corrections), desk.source.transport)

def runValidate (s : Surroundings σ) (plan : String) (nodeUrl settingsFile : Option String)
    (sink : Sink) : Except Error (Result σ) := do
  let settings ← settingsFor s nodeUrl settingsFile
  match validateFile s settings plan with
  | (.error e, state) => report s.console e s.files state
  | (.ok (r, corrections), state) =>
    let notes := corrections.map Plan.Correction.text
    let lines := notes.map fun n => .line (styled "dim" ("normalized " ++ n))
    let shown := s.console.showEach ((lines ++ [findingsShown r.findings]).map .ok)
    let j := Json.obj (r.fields ++ [("corrections", .texts notes)])
    deliver sink (codeOf r.ok) j shown s.files state

/-! ## Analysis -/

/-- What an analysis starts from. -/
structure Evidence where
  outcome : Outcome
  tokens : List Token
  position : Option Position
  analysis : Analysis

/-- Reads an outcome and perhaps the tokens of a plan. -/
def readOutcome (files : FileTree) (outcome owner : String) (plan vaultProtocol : Option String) :
    Except Error Evidence := do
  let j ← files.readJson outcome "simulate response" true
  let o ← Outcome.ofResponse j
  let tokens ← match plan with
    | none => pure []
    | some path => (files.readPlan path true).map fun p => p.1.tokens
  let position : Option Position := (filled vaultProtocol).map fun protocol => { protocol }
  let analysis ← analyze o tokens owner position
  return { outcome := o, tokens, position, analysis }

/-- The result of an analysis as JSON. -/
def analysisJson (r : Evidence) (s : Summary) (ds : List Diagnosis) : Json :=
  .obj [("success", .bool s.success), ("vmStatus", .str s.status), ("gasUsed", .int s.gasUsed),
    ("gasCostApt", .float s.gasCost), ("analysis", r.analysis.toJson),
    ("balanceChanges", .arr (s.writes.balances.map BalanceChange.toJson)),
    ("diagnoses", .arr (ds.map Diagnosis.toJson))]

/-- The line about the status. -/
def statusShown (s : Summary) : Except Error Display := do
  let word := if s.success then styled "green" "success" else styled "red" "failed"
  let gas ← writeInt s.gasUsed
  let cost := String.ofList (s.gasCost.fixedText 6)
  return .line s!"Simulation {word}: {s.status} (gas {gas}, {cost} APT)"

/-- What is shown of an analysis. -/
def analysisShown (owner : String) (r : Evidence) (s : Summary) (ds : List Diagnosis) :
    List (Except Error Display) :=
  [statusShown s, eventsShown r.analysis.events, balancesShown owner r.tokens r.analysis.balances]
    ++ (if r.position.isSome then [vaultShown r.analysis.vault] else [])
    ++ (diagnosesShown ds).map .ok

/-- The diagnoses of an outcome that is analyzed. -/
def diagnosesOf (s : Summary) : Except Error (List Diagnosis) :=
  diagnoseOutcome s.success s.status .null

def runAnalyze (s : Surroundings σ) (outcome owner : String) (plan vaultProtocol : Option String)
    (sink : Sink) : Except Error (Result σ) :=
  match readOutcome s.files outcome owner plan vaultProtocol with
  | .error e => report s.console e s.files s.state
  | .ok r => do
    let summary ← summarize r.outcome (Registry.ofTokens r.tokens) r.position
    let ds ← diagnosesOf summary
    let shown := s.console.showEach (analysisShown owner r summary ds)
    deliver sink (codeOf summary.success) (analysisJson r summary ds) shown s.files s.state

/-! ## Diagnosis -/

def runDiagnose (s : Surroundings σ) (status : String) (step : Option String) (sink : Sink) :
    Except Error (Result σ) := do
  let ds ← diagnose status (.ofOption .str step)
  let shown := s.console.showEach ((diagnosesShown ds).map .ok)
  deliver sink 0 (.arr (ds.map Diagnosis.toJson)) shown s.files s.state

/-! ## Commands -/

/-- Carries an order out. -/
def carryOut (s : Surroundings σ) (order : Order) : Except Error (Result σ) :=
  match order.command with
  | .validate plan nodeUrl settingsFile => runValidate s plan nodeUrl settingsFile order.sink
  | .analyze outcome owner plan protocol => runAnalyze s outcome owner plan protocol order.sink
  | .diagnose status step => runDiagnose s status step order.sink

/-- Runs a command line. -/
def run (s : Surroundings σ) (argv : List String) : Except Error (Result σ) :=
  match readOrder argv with
  | .wrong => .ok ⟨wrongCode, "", s.files, s.state⟩
  | .help => .ok ⟨0, helpText, s.files, s.state⟩
  | .done order => carryOut s order

end MovePlan.Cli
