/-!
Contract: how builders hand values to products.

Mutable products take what the caller gave. Immutable products take lists that
the builder copied and that nobody can change through the product.
-/

namespace BuilderSynthesis.Schema

/-- How builders hand values to products. -/
inductive Policy where
  | direct
  | defensive
deriving DecidableEq, Repr, Inhabited

namespace Policy

/-- The name of a policy in a manifest, after the products it gives. -/
def name : Policy → String
  | .direct => "mutable"
  | .defensive => "immutable"

/-- The name of a policy in reports on a run, after what the builder does. -/
def strategyName : Policy → String
  | .direct => "direct-assignment"
  | .defensive => "defensive-copy"

def ofName? (name : String) : Option Policy :=
  if name = "mutable" then some .direct
  else if name = "immutable" then some .defensive
  else none

/-- The policy that a user names, in letters of either case. -/
def ofText? (text : String) : Option Policy :=
  ofName? (text.map Char.toLower)

def unknownMessage (text : String) : String :=
  "unknown policy '" ++ text ++ "', expected 'mutable' or 'immutable'"

end Policy

end BuilderSynthesis.Schema
