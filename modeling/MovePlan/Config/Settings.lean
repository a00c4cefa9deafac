import MovePlan.Config.Assignments
import MovePlan.Json.Coerce

/-!
# Settings

How to reach a node: its address, a key if it wants one, and how long to wait for it. A setting comes
from the environment, from a file of assignments, or from the defaults, in this order; an empty value
in the environment counts as none.
-/

namespace MovePlan.Config

open Numeric Text

/-- The variable with the node's address. -/
def nodeUrlName : String := "MOVE_COMPOSER_NODE_URL"

/-- The variable with the key. -/
def apiKeyName : String := "MOVE_COMPOSER_API_KEY"

/-- The variable with the number of seconds to wait. -/
def timeoutName : String := "MOVE_COMPOSER_TIMEOUT_SECONDS"

/-- The public node of the main network. -/
def publicNode : String := "https://api.mainnet.aptoslabs.com/v1"

/-- How to reach a node. -/
structure Settings where
  nodeUrl : String
  apiKey : Option String
  /-- The number of seconds to wait for an answer. -/
  timeout : Binary64
  deriving Inhabited

/-- A text that is not empty. -/
def filled (s : Option String) : Option String := s.filter (· != "")

/-- A text without the slashes at its end. -/
def withoutSlashes (s : String) : String := String.ofList (dropWhileEnd (· == '/') s.toList)

namespace Settings

/-- The defaults that are built in. -/
def builtIn : Settings := ⟨publicNode, none, .ofInt 30⟩

/-- The defaults in an environment that gives some of them. Here a timeout that is no number is an
error, and an empty address is taken as it is. -/
def defaultsIn (env : Assignments) : Except Error Settings := do
  let timeout ← match env.get? timeoutName with
    | none => pure builtIn.timeout
    | some s =>
      match readBinary64? s.toList with
      | some x => pure x
      | none => throw (.invalidDecimal s)
  return ⟨(env.get? nodeUrlName).getD publicNode, filled (env.get? apiKeyName), timeout⟩

/-- The least number of seconds to wait. -/
def shortestTimeout : Int := 1

/-- The greatest number of seconds to wait. -/
def longestTimeout : Int := 600

/-- The timeout that a text gives, put within its bounds; the default if it gives none. -/
def timeoutOf (default : Binary64) (s : String) : Binary64 :=
  match Json.numberWithin (.float default) (.float (.ofInt shortestTimeout))
      (.float (.ofInt longestTimeout)) (.str s) with
  | .ok (.float x) => x
  | _ => default

/-- The value of a setting: that of the environment if it is not empty, else that of the file. -/
def valueOf (env file : Assignments) (name : String) : Option String :=
  (filled (env.get? name)).or (file.get? name)

/-- The settings from an environment and a file. -/
def resolve (defaults : Settings) (env file : Assignments) : Settings where
  nodeUrl := withoutSlashes ((filled (valueOf env file nodeUrlName)).getD defaults.nodeUrl)
  apiKey := (filled (valueOf env file apiKeyName)).or defaults.apiKey
  timeout := ((valueOf env file timeoutName).map (timeoutOf defaults.timeout)).getD defaults.timeout

/-- The settings from an environment and perhaps a file. -/
def load (defaults : Settings) (env : Assignments) (t : Storage.FileTree) (path : Option String) :
    Except Error Settings := do
  let file ← match path with
    | none => pure []
    | some p => Assignments.read t p
  return resolve defaults env file

end Settings

end MovePlan.Config
