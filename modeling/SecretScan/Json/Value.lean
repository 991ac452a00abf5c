/-!
# JSON values

The values that reports consist of. Numbers are natural numbers, and the fields of an object keep
their order.
-/

namespace SecretScan.Json

/-- A JSON value. -/
inductive Value where
  | number (n : Nat)
  | string (s : String)
  | array (items : List Value)
  | object (fields : List (String × Value))
  deriving Repr, Inhabited

end SecretScan.Json
