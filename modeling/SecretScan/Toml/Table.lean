import SecretScan.Toml.Value

/-!
# Tables under construction

The statements of a document fill a table step by step. What a later statement may still add to a
table depends on how the table came about, so this is kept until the document is complete.
-/

namespace SecretScan.Toml

/-- How a table came about. -/
inductive Origin where
  /-- As a part of the way to a table with a header. A header may open it once. -/
  | implied
  /-- By a key with dots. Only keys with dots may add to it. -/
  | dotted
  /-- By a header of its own. -/
  | header
  deriving DecidableEq, Repr

/-- What a key stands for in a table under construction. -/
inductive Entry where
  /-- A value, which is complete. -/
  | value (v : Value)
  | table (origin : Origin) (fields : List (String × Entry))
  /-- An array of tables, made by headers; the last table comes first. -/
  | tables (last : List (String × Entry)) (earlier : List (List (String × Entry)))

/-- The fields of a table under construction. -/
abbrev Fields := List (String × Entry)

namespace Fields

/-- What stands under a key. -/
def get? (fields : Fields) (key : String) : Option Entry :=
  (fields.find? (·.1 == key)).map (·.2)

/-- Replaces what stands under a key, or adds it at the end. -/
def put (fields : Fields) (key : String) (e : Entry) : Fields :=
  match fields with
  | [] => [(key, e)]
  | (k, old) :: rest => if k = key then (k, e) :: rest else (k, old) :: put rest key e

/-- Gives a value to a key with dots. The tables on the way are made if they are missing, and none
of them may have a header. -/
def assign (fields : Fields) (v : Value) : List String → Except Error Fields
  | [] => .error .badKey
  | [key] => match fields.get? key with
    | none => .ok (fields ++ [(key, .value v)])
    | some _ => .error .duplicate
  | key :: path => match fields.get? key with
    | none => do
      let inner ← assign [] v path
      return fields ++ [(key, .table .dotted inner)]
    | some (.table .header _) => .error .duplicate
    | some (.table origin inner) => do
      let inner ← assign inner v path
      return fields.put key (.table origin inner)
    | some _ => .error .duplicate

/-- Where a header leads: `fill` is applied to the fields of the table that it opens. With `many`,
the table is a new one at the end of an array of tables. -/
def openTable (fields : Fields) (many : Bool) (fill : Fields → Except Error Fields) :
    List String → Except Error Fields
  | [] => .error .badHeader
  | [key] => match fields.get? key, many with
    | none, false => do return fields ++ [(key, .table .header (← fill []))]
    | none, true => do return fields ++ [(key, .tables (← fill []) [])]
    | some (.table .implied inner), false => do
      return fields.put key (.table .header (← fill inner))
    | some (.tables last earlier), true => do
      return fields.put key (.tables (← fill []) (last :: earlier))
    | _, _ => .error .duplicate
  | key :: path => match fields.get? key with
    | none => do
      return fields ++ [(key, .table .implied (← openTable [] many fill path))]
    | some (.table origin inner) => do
      return fields.put key (.table origin (← openTable inner many fill path))
    | some (.tables last earlier) => do
      return fields.put key (.tables (← openTable last many fill path) earlier)
    | some (.value _) => .error .duplicate

end Fields

mutual

/-- The value that an entry amounts to when the document is complete. -/
def Entry.toValue : Entry → Value
  | .value v => v
  | .table _ fields => .table (fieldValues fields)
  | .tables last earlier => .array ((tableValues earlier).reverse ++ [.table (fieldValues last)])

/-- The fields of a complete table. -/
def fieldValues : List (String × Entry) → List (String × Value)
  | [] => []
  | (key, e) :: rest => (key, e.toValue) :: fieldValues rest

/-- The tables of a complete array of tables. -/
def tableValues : List (List (String × Entry)) → List Value
  | [] => []
  | fields :: rest => .table (fieldValues fields) :: tableValues rest

end

end SecretScan.Toml
