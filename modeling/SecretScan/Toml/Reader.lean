import SecretScan.Toml.Scalar
import SecretScan.Toml.Table

/-!
# Reading a document

A document is a sequence of lines; a line holds a header, an assignment, or nothing. It is read into
statements, and these fill a table. `Toml.read` is the whole reader.
-/

namespace SecretScan.Toml

/-- Whether a character may stand in a key without quotes. -/
def isKeyChar (c : Char) : Bool := c.isAlphanum || c == '_' || c == '-'

/-- Reads one key. -/
def readKey (cs : List Char) : Except Error (String × List Char) :=
  match cs with
  | '"' :: rest => do
    let (text, rest) ← readBasic (rest.length + 1) rest
    return (String.ofList text, rest)
  | '\'' :: rest => do
    let (text, rest) ← readLiteral rest
    return (String.ofList text, rest)
  | cs =>
    let key := cs.takeWhile isKeyChar
    if key.isEmpty then .error .badKey
    else .ok (String.ofList key, cs.dropWhile isKeyChar)

/-- Reads keys with dots between them, and the blanks after them. -/
def readPath (fuel : Nat) (cs : List Char) : Except Error (List String × List Char) :=
  match fuel with
  | 0 => .error .badKey
  | fuel + 1 => do
    let (key, rest) ← readKey cs
    match skipSpaces rest with
    | '.' :: rest =>
      let (path, rest) ← readPath fuel (skipSpaces rest)
      return (key :: path, rest)
    | rest => return ([key], rest)

/-- The text after blanks, comments and ends of lines within brackets. -/
def within (e : Error) (cs : List Char) : Except Error (List Char) :=
  match skipTrivia false cs with
  | some rest => .ok rest
  | none => .error e

/-- How deep arrays and tables in braces may nest. -/
def maxNesting : Nat := 80

mutual

/-- Reads a value in which arrays and tables in braces nest at most `nesting` deep. Every value
takes a character, so `fuel` need not exceed the length of the text. -/
def readValue (nesting fuel : Nat) (cs : List Char) : Except Error (Value × List Char) :=
  match fuel with
  | 0 => .error .badScalar
  | fuel + 1 => match cs with
    | '"' :: rest => do
      let (text, rest) ← readString '"' rest
      return (.string (String.ofList text), rest)
    | '\'' :: rest => do
      let (text, rest) ← readString '\'' rest
      return (.string (String.ofList text), rest)
    | '[' :: rest =>
      if nesting = 0 then .error .tooDeep
      else do
        let (items, rest) ← readItems (nesting - 1) fuel rest
        return (.array items, rest)
    | '\x7b' :: rest =>
      if nesting = 0 then .error .tooDeep
      else do
        let (fields, rest) ← readFields (nesting - 1) fuel [] rest
        return (.table (fieldValues fields), rest)
    | cs => readScalar cs

/-- Reads the items of an array up to its end. A comma may follow the last item. -/
def readItems (nesting fuel : Nat) (cs : List Char) : Except Error (List Value × List Char) :=
  match fuel with
  | 0 => .error .badArray
  | fuel + 1 => do
    match ← within .badArray cs with
    | ']' :: rest => return ([], rest)
    | cs =>
      let (v, rest) ← readValue nesting fuel cs
      match ← within .badArray rest with
      | ']' :: rest => return ([v], rest)
      | ',' :: rest =>
        let (items, rest) ← readItems nesting fuel rest
        return (v :: items, rest)
      | _ => .error .badArray

/-- Reads assignments in braces up to the closing brace, and adds them to `fields`. A comma may
follow the last assignment. -/
def readFields (nesting fuel : Nat) (fields : Fields) (cs : List Char) :
    Except Error (Fields × List Char) :=
  match fuel with
  | 0 => .error .badInlineTable
  | fuel + 1 => do
    match ← within .badInlineTable cs with
    | '\x7d' :: rest => return (fields, rest)
    | cs =>
      let (path, rest) ← readPath (cs.length + 1) cs
      match rest with
      | '=' :: rest =>
        let (v, rest) ← readValue nesting fuel (skipSpaces rest)
        let fields ← fields.assign v path
        match ← within .badInlineTable rest with
        | '\x7d' :: rest => return (fields, rest)
        | ',' :: rest => readFields nesting fuel fields rest
        | _ => .error .badInlineTable
      | _ => .error .badInlineTable

end

/-- What a line of a document says. -/
inductive Statement where
  | assign (path : List String) (v : Value)
  | header (path : List String) (many : Bool)

/-- Reads a header after its first bracket. -/
def readHeader (cs : List Char) : Except Error (Statement × List Char) := do
  match cs with
  | '[' :: cs =>
    let (path, rest) ← readPath (cs.length + 1) (skipSpaces cs)
    match rest with
    | ']' :: ']' :: rest => return (.header path true, rest)
    | _ => .error .badHeader
  | cs =>
    let (path, rest) ← readPath (cs.length + 1) (skipSpaces cs)
    match rest with
    | ']' :: rest => return (.header path false, rest)
    | _ => .error .badHeader

/-- Reads an assignment. -/
def readAssignment (cs : List Char) : Except Error (Statement × List Char) := do
  let (path, rest) ← readPath (cs.length + 1) cs
  match rest with
  | '=' :: rest =>
    let rest := skipSpaces rest
    let (v, rest) ← readValue maxNesting (rest.length + 1) rest
    return (.assign path v, rest)
  | _ => .error .badLine

/-- Reads the statements of a document. Every statement takes a character, so `fuel` need not exceed
the length of the text by more than one. -/
def readStatements (fuel : Nat) (cs : List Char) : Except Error (List Statement) :=
  match fuel with
  | 0 => .ok []
  | fuel + 1 => do
    match ← within .badLine cs with
    | [] => return []
    | '[' :: rest =>
      let (statement, rest) ← readHeader rest
      return statement :: (← readStatements fuel (← skipLineEnd rest))
    | cs =>
      let (statement, rest) ← readAssignment cs
      return statement :: (← readStatements fuel (← skipLineEnd rest))

/-- Assignments one after the other. -/
def assignAll (fields : Fields) : List (List String × Value) → Except Error Fields
  | [] => .ok fields
  | (path, v) :: rest => do assignAll (← fields.assign v path) rest

/-- A header and the assignments below it. -/
structure Section where
  path : List String
  many : Bool
  assignments : List (List String × Value)

/-- The assignments before the first header, and the sections. -/
def sections : List Statement → List (List String × Value) × List Section
  | [] => ([], [])
  | .assign path v :: rest =>
    let (top, others) := sections rest
    ((path, v) :: top, others)
  | .header path many :: rest =>
    let (own, others) := sections rest
    ([], ⟨path, many, own⟩ :: others)

/-- The table that sections fill. -/
def fillSections (fields : Fields) : List Section → Except Error Fields
  | [] => .ok fields
  | s :: rest => do
    let fields ← fields.openTable s.many (fun inner => assignAll inner s.assignments) s.path
    fillSections fields rest

/-- The fields of a document. A byte order mark at its start is passed over. -/
def read (text : List Char) : Except Error (List (String × Value)) := do
  let text := match text with
    | '\ufeff' :: rest => rest
    | text => text
  let (top, sections) := sections (← readStatements (text.length + 1) text)
  return fieldValues (← fillSections (← assignAll [] top) sections)

end SecretScan.Toml
