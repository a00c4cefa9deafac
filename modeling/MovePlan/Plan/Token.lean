import MovePlan.Json.Basic

/-!
# Tokens

A fungible asset that a plan keeps track of: its symbol, the address of its metadata, and how many
decimals its amounts are shown with.
-/

namespace MovePlan

/-- A tracked asset. -/
structure Token where
  symbol : String
  metadata : String
  decimals : Int
  deriving DecidableEq, Repr, Inhabited

def Token.toJson (t : Token) : Json :=
  .obj [("symbol", .str t.symbol), ("metadata", .str t.metadata), ("decimals", .int t.decimals)]

end MovePlan
