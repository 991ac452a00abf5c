import SecretScan.Command.Arguments
import SecretScan.Config.Decode

/-!
# The options of a scan

What arguments and configuration amount to: arguments come before the configuration, and that before
the defaults.
-/

namespace SecretScan

/-- Why there are no options for a scan. -/
inductive OptionsError where
  | configNotFound (path : Path)
  | config (cause : ConfigError)
  | noDirectory
  deriving DecidableEq, Repr

/-- The options of a scan. -/
structure ScanOptions where
  directory : Path
  extensions : List String
  /-- Whether the extensions are other than the default ones. -/
  customExtensions : Bool
  excludeDirs : List String
  format : OutputFormat
  /-- The file to which the results are also written. -/
  output : Option Path
  /-- How many files are scanned at a time; without a number, as many as there are processors. -/
  concurrency : Option Nat
  patterns : PatternFiles
  /-- The configuration file that was read. -/
  configPath : Option Path
  deriving DecidableEq, Repr

namespace ScanOptions

/-- The pieces of a text between commas. -/
def commaPieces (s : String) : List String := (Line.split ',' s.toList).map String.ofList

/-- The extensions of a scan, and whether they are other than the default ones. Extensions from the
arguments, or else from the configuration, count if not all of them are blank. -/
def extensionsOf (types : Option String) (c : Config) : List String × Bool :=
  let given := match types with
    | some types => Config.normalizeExtensions (commaPieces types)
    | none => []
  if given ≠ [] then (given, true)
  else if c.normalizedExtensions ≠ [] then (c.normalizedExtensions, true)
  else (Config.defaultExtensions, false)

/-- The format of the results. -/
def formatOf (a : Arguments) (c : Config) : OutputFormat :=
  if a.json then .json else (a.format.or c.output.format).getD .text

/-- The options that arguments and a configuration amount to. -/
def resolve (a : Arguments) (c : Config) (configPath : Option Path) :
    Except OptionsError ScanOptions :=
  match a.directory.or c.directory with
  | none => .error .noDirectory
  | some directory =>
    let (extensions, customExtensions) := extensionsOf a.types c
    .ok {
      directory, extensions, customExtensions
      excludeDirs := Config.mergeExcludeDirs c.excludeDirs
      format := formatOf a c
      output := a.output.or c.output.path
      concurrency := a.concurrency.or c.concurrency
      patterns := c.patterns
      configPath }

/-- The configuration that arguments ask for: the given file, which has to exist, or the file in the
working directory if there is one. -/
def loadConfig (files : Node) (explicit : Option Path) :
    Except OptionsError (Config × Option Path) :=
  match explicit with
  | some path =>
    if files.hasPath path then read path else .error (.configNotFound path)
  | none => if files.hasPath Config.fileName then read Config.fileName else .ok ({}, none)
where
  read (path : Path) : Except OptionsError (Config × Option Path) :=
    match Config.load files path with
    | .ok config => .ok (config, some path)
    | .error cause => .error (.config cause)

/-- The options of a scan, with the configuration read from a file. -/
def load (files : Node) (a : Arguments) : Except OptionsError ScanOptions := do
  let (config, path) ← loadConfig files a.config
  resolve a config path

end ScanOptions

end SecretScan
