import MovePlan.Tracking.Delta

/-!
# Expectations

What the author of a step expects of it: that a balance grows or shrinks, that a position's debt or
collateral shrinks, or success as such. An expectation about something that is not known fails, and
says so in place of the actual value.
-/

namespace MovePlan.Tracking

open Simulation Move Numeric

/-- What an expectation is about. -/
inductive Subject where
  | balanceIncrease
  | balanceDecrease
  | debtDecrease
  | collateralDecrease
  | success
  /-- A type that is not known. -/
  | other (type : Json)
  deriving Inhabited

namespace Subject

/-- The known types and their words. -/
def known : List (String × Subject) :=
  [("balance_increase", balanceIncrease), ("balance_decrease", balanceDecrease),
   ("vault_debt_decrease", debtDecrease), ("vault_collateral_decrease", collateralDecrease),
   ("success", success)]

/-- The type that a value names. -/
def ofJson (j : Json) : Subject := (j.text?.bind fun word => known.lookup word).getD (other j)

def toJson : Subject → Json
  | balanceIncrease => .str "balance_increase"
  | balanceDecrease => .str "balance_decrease"
  | debtDecrease => .str "vault_debt_decrease"
  | collateralDecrease => .str "vault_collateral_decrease"
  | success => .str "success"
  | other j => j

end Subject

/-- An expectation of a step. -/
structure Expectation where
  subject : Subject
  /-- What it is called; a text as a rule. -/
  description : Json
  /-- The asset that it is about, if any. -/
  token : Json := .null
  deriving Inhabited

def Expectation.toJson (e : Expectation) : Json :=
  .obj [("type", e.subject.toJson), ("description", e.description), ("token", e.token)]

/-- How an expectation came out. -/
structure Verdict where
  passed : Bool
  description : Json
  actual : String
  deriving Inhabited

def Verdict.toJson (v : Verdict) : Json :=
  .obj [("passed", .bool v.passed), ("description", v.description), ("actual", .str v.actual)]

/-- The delta of the first token that is the given asset, by address. An asset that is given but is
no text has no address. -/
def findDelta (deltas : List Delta) (asset : Json) : Except Error (Option Delta) :=
  match asset with
  | .str s => if s = "" then .ok none else .ok (deltas.find? fun d => Address.same d.token.metadata s)
  | j => if j.given then .error .missingAttribute else .ok none

/-- Whether, and how, a balance changed as expected. -/
def judgeBalance (e : Expectation) (deltas : List Delta) (holds : Int → Bool) :
    Except Error Verdict := do
  match ← findDelta deltas e.token with
  | none => return ⟨false, e.description, "token not tracked"⟩
  | some d => return ⟨holds d.change, e.description, s!"{d.text} {d.token.symbol}"⟩

/-- Whether, and how, an amount of a position shrank as expected. -/
def judgeVault (e : Expectation) (before after : Option Vault) (what : String)
    (amount : Vault → Int) : Except Error Verdict :=
  match before, after with
  | some b, some a => do
    let old ← writeInt (amount b)
    let new ← writeInt (amount a)
    return ⟨amount a < amount b, e.description, s!"{what} {old} -> {new}"⟩
  | _, _ => .ok ⟨false, e.description, "vault not tracked"⟩

/-- How an expectation came out. -/
def judge (deltas : List Delta) (before after : Option Vault) (e : Expectation) :
    Except Error Verdict :=
  match e.subject with
  | .balanceIncrease => judgeBalance e deltas fun n => 0 < n
  | .balanceDecrease => judgeBalance e deltas fun n => n < 0
  | .debtDecrease => judgeVault e before after "debt" Vault.debt
  | .collateralDecrease => judgeVault e before after "collateral" Vault.collateral
  | .success => .ok ⟨true, e.description, "checked at step level"⟩
  | .other j => .ok ⟨false, e.description, "unknown type: " ++ j.display⟩

/-- How expectations came out, up to the first that cannot be judged. -/
def judgeAll (deltas : List Delta) (before after : Option Vault) :
    List Expectation → Except Error (List Verdict)
  | [] => .ok []
  | e :: rest => do
    let verdict ← judge deltas before after e
    let later ← judgeAll deltas before after rest
    return verdict :: later

end MovePlan.Tracking
