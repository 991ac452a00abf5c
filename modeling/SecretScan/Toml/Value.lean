/-!
# TOML values

The values that a TOML document can hold, and the causes for which a text is none. Of numbers with a
fraction and of dates only the kind is kept.
-/

namespace SecretScan.Toml

/-- A value of a document. -/
inductive Value where
  | string (s : String)
  | integer (n : Int)
  | float
  | boolean (b : Bool)
  | dateTime
  | array (items : List Value)
  | table (fields : List (String × Value))
  deriving Repr, Inhabited

/-- Why a text is no document. -/
inductive Error where
  | badKey
  | badString
  | badScalar
  | badArray
  | badInlineTable
  | badHeader
  | badLine
  /-- Arrays and tables in braces that nest too deep. -/
  | tooDeep
  /-- A number that no value can hold. -/
  | outOfRange
  /-- A key or table that exists already and may not be changed. -/
  | duplicate
  deriving DecidableEq, Repr

end SecretScan.Toml
