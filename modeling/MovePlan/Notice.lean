import MovePlan.Json.Display

/-!
# Notices

What a structural error tells a program: a code, a message, and data to look at. A notice is made from
its parts as they were given. They are texts as a rule; whatever else stands for one is shown in the
message and kept as it is in the data.
-/

namespace MovePlan

/-- A code with a message and data. -/
structure Notice where
  code : Json
  message : Json
  data : Json := .obj []
  deriving Inhabited

namespace Notice

/-- A notice whose code and message are texts. -/
def ofText (code message : String) (data : Json.Fields := []) : Notice :=
  ⟨.str code, .str message, .obj data⟩

/-- The message as a text. -/
def text (n : Notice) : String := n.message.display

def fields (n : Notice) : Json.Fields :=
  [("code", n.code), ("message", n.message), ("data", n.data)]

/-! ## Steps and functions -/

def malformedFunctionId (id reason : Json) : Notice :=
  let shownId := id.display
  let why := reason.display
  ofText "MALFORMED_FUNCTION_ID"
    s!"Invalid function ID \"{shownId}\": {why} (expected \"0xaddr::module::function\")"
    [("functionId", id), ("reason", reason)]

def duplicateLabel (label : Json) : Notice :=
  let name := label.display
  ofText "DUPLICATE_STEP_LABEL" s!"Duplicate step label: \"{name}\"" [("label", label)]

def emptyGraph : Notice := ofText "EMPTY_GRAPH" "A composition requires at least one step"

/-! ## References -/

/-- A reference to a step without outputs; `known` are the names among the `available` ones. -/
def unknownStep (step user available : Json) (known : List String) : Notice :=
  let target := step.display
  let who := user.display
  let names := ", ".intercalate known
  ofText "UNKNOWN_STEP_REFERENCE"
    s!"Step \"{who}\" references unknown step \"{target}\". Available: [{names}]"
    [("step", step), ("referencedBy", user), ("available", available)]

def returnIndexOutOfBounds (step index arity user : Json) : Notice :=
  let target := step.display
  let place := index.display
  let count := arity.display
  let who := user.display
  ofText "RETURN_INDEX_OUT_OF_BOUNDS"
    (s!"Step \"{target}\" has {count} return value(s), but index {place} " ++
      s!"was requested by step \"{who}\"")
    [("step", step), ("returnIndex", index), ("arity", arity), ("referencedBy", user)]

def alreadyMoved (step index mover user : Json) : Notice :=
  let target := step.display
  let place := index.display
  let first := mover.display
  let who := user.display
  ofText "HANDLE_ALREADY_MOVED"
    s!"Step \"{who}\" references {target}[{place}], which was already moved by step \"{first}\""
    [("step", step), ("returnIndex", index), ("movedBy", mover), ("referencedBy", user)]

/-! ## Plans, nodes and executors -/

/-- Findings that forbid to build, with their messages. -/
def validationFailed (findings : List Json) (messages : List String) : Notice :=
  ofText "VALIDATION_FAILED" ("Validation failed:\n  " ++ "\n  ".intercalate messages)
    [("findings", .arr findings)]

def planDecode (path reason : Json) : Notice :=
  let place := path.display
  let why := reason.display
  ofText "PLAN_DECODE_ERROR" s!"Invalid plan at {place}: {why}" [("path", path), ("reason", reason)]

def planBuild (reason : Json) : Notice := { code := .str "PLAN_BUILD_ERROR", message := reason }

def nodeRequest (url reason status : Json) : Notice :=
  let address := url.display
  let why := reason.display
  ofText "NODE_REQUEST_ERROR" s!"Request to {address} failed: {why}"
    [("url", url), ("reason", reason), ("statusCode", status)]

def executionUnavailable : Notice :=
  ofText "EXECUTION_UNAVAILABLE"
    "Cannot execute: no transaction executor configured (simulation-only mode)"

end Notice

end MovePlan
