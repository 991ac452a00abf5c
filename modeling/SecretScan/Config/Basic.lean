import SecretScan.Pattern.Sources
import SecretScan.Text.Lowercase

/-!
# The configuration

The options that a configuration file can give, and the rules for extensions, excluded names and the
format of results that apply to options from everywhere.
-/

namespace SecretScan

/-- The format of results. -/
inductive OutputFormat where
  | text
  | json
  deriving DecidableEq, Repr

namespace OutputFormat

/-- The name of a format. -/
def name : OutputFormat → String
  | text => "text"
  | json => "json"

/-- The format with a name, without regard to case and to blanks around it. A blank name stands for
text. -/
def ofName? (s : String) : Option OutputFormat :=
  let name := Lowercase.ofString (Blank.trim s)
  if name = "" ∨ name = "text" then some text
  else if name = "json" then some json
  else none

/-- The wording for a name that no format has. -/
def unknownMessage (s : String) : String :=
  "invalid output format '" ++ s ++ "' (supported: text, json)"

end OutputFormat

/-- Where results are written and how. -/
structure OutputOptions where
  path : Option Path := none
  format : Option OutputFormat := none
  deriving DecidableEq, Repr

/-- The options in a configuration file. All may be missing. -/
structure Config where
  /-- The directory to scan. -/
  directory : Option Path := none
  /-- The extensions of files to scan, with or without a dot. -/
  extensions : List String := []
  /-- Names that are excluded besides the default ones. -/
  excludeDirs : List String := []
  /-- How many files are scanned at a time. -/
  concurrency : Option Nat := none
  output : OutputOptions := {}
  patterns : PatternFiles := {}
  deriving DecidableEq, Repr

namespace Config

/-- The name of the configuration file in the working directory. -/
def fileName : Path := ⟨"fasthog.toml"⟩

/-- The extensions of files that are scanned if no others are given. -/
def defaultExtensions : List String :=
  [".js", ".json", ".py", ".cs", ".go", ".java", ".sh", ".tf", ".yml", ".yaml", ".env", "env",
   ".ENV", "ENV", ".key", ".backup", ".tfstate", ".ts", ".txt", ".md", ".properties"]

/-- The names that are always excluded. -/
def defaultExcludeDirs : List String :=
  [".git", ".github", "node_modules", "vendor", ".idea", ".vscode"]

/-- An extension without blanks around it and with a dot at its start; `none` if it is blank. -/
def normalizeExtension (e : String) : Option String :=
  let e := Blank.trim e
  match e.toList with
  | [] => none
  | '.' :: _ => some e
  | _ => some ("." ++ e)

/-- The normalized ones of some extensions. -/
def normalizeExtensions (es : List String) : List String := es.filterMap normalizeExtension

/-- The names that are always excluded, and after them the new ones of some names, in order. -/
def mergeExcludeDirs (extra : List String) : List String :=
  (defaultExcludeDirs ++ extra).foldl
    (fun merged name => if merged.contains name then merged else merged ++ [name]) []

/-- The normalized extensions of a configuration. -/
def normalizedExtensions (c : Config) : List String := normalizeExtensions c.extensions

end Config

end SecretScan
