import SecretScan.Config.Basic
import SecretScan.Toml.Reader

/-!
# Reading a configuration

How the options are found in a TOML document. Unknown keys are passed over. The tables of options
may also be written as arrays, which give the options in their order; what comes after the last
option is passed over.
-/

namespace SecretScan

/-- Why there is no configuration. -/
inductive ConfigError where
  | read (path : Path) (cause : AccessError)
  /-- The document is malformed, or an option has a value of the wrong kind. -/
  | parse (path : Path)
  deriving DecidableEq, Repr

/-- The wording of an error. What is wrong with a document comes after it in the words of the library
that reads documents, and is left out here. -/
def ConfigError.message : ConfigError → String
  | read path cause => "failed to read config '" ++ path.text ++ "': " ++ cause.message
  | parse path => "failed to parse config '" ++ path.text ++ "'"

namespace Config

open Toml (Value)

/-- A text. -/
def text? : Value → Option String
  | .string s => some s
  | _ => none

/-- A path, which is written as a text. -/
def path? (v : Value) : Option Path := (text? v).map Path.mk

/-- A list of texts. -/
def texts? : Value → Option (List String)
  | .array items => items.mapM text?
  | _ => none

/-- A number that 64 bits can hold. -/
def number? : Value → Option Nat
  | .integer n => if 0 ≤ n ∧ n < UInt64.size then some n.toNat else none
  | _ => none

/-- A format by its exact name. The name may also be the only key of a table, with nothing as its
value. -/
def format? : Value → Option OutputFormat
  | .string s => named? s
  | .table [(key, .table [])] => named? key
  | .table [(key, .array [])] => named? key
  | _ => none
where
  named? (s : String) : Option OutputFormat :=
    if s = "text" then some .text else if s = "json" then some .json else none

/-- The values of options: those of a table by their names, or those of an array by their order. -/
def optionValues? (names : List String) : Value → Option (List (Option Value))
  | .table fields => some (names.map fun name => (fields.find? (·.1 == name)).map (·.2))
  | .array items => some ((List.range names.length).map fun i => items[i]?)
  | .dateTime => some (names.map fun _ => none)
  | _ => none

/-- The value of an option, if it is given, which has to be of the right kind then. -/
def given? {α : Type} (decode : Value → Option α) (v : Option Value) : Option (Option α) :=
  match v with
  | none => some none
  | some v => (decode v).map some

/-- The options for the output. -/
def output? (v : Value) : Option OutputOptions := do
  match ← optionValues? ["path", "format"] v with
  | [path, format] => return ⟨← given? path? path, ← given? format? format⟩
  | _ => none

/-- The files that take the place of built-in patterns. -/
def patterns? (v : Value) : Option PatternFiles := do
  match ← optionValues? ["direct", "fast", "strict", "exclude"] v with
  | [direct, fast, strict, exclude] =>
    return ⟨← given? path? direct, ← given? path? fast, ← given? path? strict,
      ← given? path? exclude⟩
  | _ => none

/-- The configuration in the fields of a document. -/
def ofFields? (fields : List (String × Value)) : Option Config := do
  let names :=
    ["directory", "extensions", "exclude_dirs", "concurrency", "output", "patterns"]
  match ← optionValues? names (.table fields) with
  | [directory, extensions, excludeDirs, concurrency, output, patterns] =>
    return {
      directory := ← given? path? directory
      extensions := (← given? texts? extensions).getD []
      excludeDirs := (← given? texts? excludeDirs).getD []
      concurrency := ← given? number? concurrency
      output := (← given? output? output).getD {}
      patterns := (← given? patterns? patterns).getD {} }
  | _ => none

/-- The configuration in a document. `path` is the name of the document in messages. -/
def ofDocument (path : Path) (text : List Char) : Except ConfigError Config :=
  match Toml.read text with
  | .ok fields => match ofFields? fields with
    | some config => .ok config
    | none => .error (.parse path)
  | .error _ => .error (.parse path)

/-- The name of a document that is no file. -/
def inline : Path := ⟨"<inline>"⟩

/-- The configuration in a file. Without the file, no option is given. -/
def load (files : Node) (path : Path) : Except ConfigError Config :=
  if files.hasPath path then
    match files.readText path with
    | .ok text => ofDocument path text
    | .error cause => .error (.read path cause)
  else .ok {}

end Config

end SecretScan
