import MovePlan.Json.Basic

/-!
# Balances

Amounts by the metadata address of their asset, as texts; each asset occurs once. What is laid over
other balances replaces those of the same assets and leaves the rest.
-/

namespace MovePlan

/-- Amounts by asset. -/
abbrev Balances := List (String × Int)

namespace Balances

/-- The amount of an asset. -/
def get? (b : Balances) (asset : String) : Option Int :=
  match b with
  | [] => none
  | (k, v) :: rest => if k = asset then some v else get? rest asset

/-- Sets the amount of an asset: in place if it is there, else at the end. -/
def put (asset : String) (amount : Int) : Balances → Balances
  | [] => [(asset, amount)]
  | (k, v) :: rest => if k = asset then (k, amount) :: rest else (k, v) :: put asset amount rest

/-- The balances `b` with the `later` ones laid over them. -/
def overlay (b later : Balances) : Balances := later.foldl (fun acc e => put e.1 e.2 acc) b

/-- Balances from entries of which later ones replace earlier ones. -/
def ofEntries (entries : List (String × Int)) : Balances := overlay [] entries

/-- A balance that is put is the balance of its asset. -/
theorem get?_put_self (asset : String) (amount : Int) (b : Balances) :
    get? (put asset amount b) asset = some amount := by
  induction b with
  | nil => simp [put, get?]
  | cons e rest ih =>
    obtain ⟨k, v⟩ := e
    by_cases h : k = asset <;> simp [put, get?, h, ih]

/-- Setting a balance leaves the other assets alone. -/
theorem get?_put_of_ne {asset other : String} (h : other ≠ asset) (amount : Int) (b : Balances) :
    get? (put asset amount b) other = get? b other := by
  induction b with
  | nil => simp [put, get?, h.symm]
  | cons e rest ih =>
    obtain ⟨k, v⟩ := e
    by_cases hk : k = asset
    · subst hk; simp [put, get?, h.symm]
    · simp [put, get?, hk, ih]

def toJson (b : Balances) : Json := .obj (b.map fun e => (e.1, .int e.2))

end Balances

end MovePlan
