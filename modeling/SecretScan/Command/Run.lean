import SecretScan.Command.Options
import SecretScan.Report.Json
import SecretScan.Scan.Request

/-!
# A run of the command

The whole command as a function of its arguments and of the files: what it prints, how it ends, and
which files are there afterwards. Nothing is written unless the scan succeeds, and then only the
output file.
-/

namespace SecretScan

/-- Why a run fails. -/
inductive RunError where
  | options (cause : OptionsError)
  | scan (cause : ScanError)
  | patterns (cause : PatternError)
  | output (path : Path) (cause : AccessError)
  deriving DecidableEq, Repr

/-- A message with the messages of its causes, outermost first. -/
abbrev MessageChain := List String

/-- The chain of a chain's messages as one text. -/
def MessageChain.text (chain : MessageChain) : String := String.intercalate ": " chain

/-- The messages of an error and its causes. A message that names its cause is followed by it all
the same. -/
def ConfigError.chain (e : ConfigError) : MessageChain :=
  match e with
  | .read _ cause => [e.message, cause.message]
  | .parse _ => [e.message]

/-- The messages of an error and its causes. -/
def OptionsError.chain : OptionsError → MessageChain
  | configNotFound path => ["config file not found: " ++ path.text]
  | config cause => "loading config" :: cause.chain
  | noDirectory =>
    ["missing directory to scan (pass DIRECTORY or set `directory` in fasthog.toml)"]

/-- The messages of an error and its causes. -/
def ScanError.chain (e : ScanError) : MessageChain :=
  match e with
  | .rootAccess _ cause | .fileAccess _ cause => [e.message, cause.message]
  | _ => [e.message]

/-- The messages of an error and its causes. -/
def PatternError.chain (e : PatternError) : MessageChain :=
  match e with
  | .read _ cause => [e.message, cause.message]
  | .encoding _ fault => [e.message, fault.message]
  | .invalid _ _ => [e.message]

/-- The messages of an error and its causes. -/
def RunError.chain : RunError → MessageChain
  | options cause => cause.chain
  | scan cause => cause.chain
  | patterns cause => "loading patterns" :: cause.chain
  | output path cause => ["failed to create output file: " ++ path.text, cause.message]

namespace ScanOptions

/-- The scan that options ask for. The root is checked before any source of patterns is read. -/
def scan (o : ScanOptions) (files : Node) (processors : Nat) : Except RunError ScanResult := do
  (checkRoot files o.directory).mapError .scan
  let matchers ← (Matchers.compile files (.withFiles o.patterns)).mapError .patterns
  let request : ScanRequest :=
    { root := o.directory, matchers, extensions := o.extensions, excluded := o.excludeDirs,
      concurrency := o.concurrency.getD processors }
  (request.run files).result.mapError .scan

/-- The lines that come before a report for readers. -/
def header (o : ScanOptions) : List String :=
  let extensions := if o.customExtensions then String.intercalate ", " o.extensions
    else "Using defaults"
  ["Directory:  " ++ o.directory.text, "Extensions: " ++ extensions] ++
    match o.output with
    | some path => ["Output:     " ++ path.text]
    | none => []

/-- The lines that explain the options, at a level of verbosity. -/
def explanation (o : ScanOptions) (processors level : Nat) : List String :=
  if level = 0 then []
  else
    let config := match o.configPath with
      | some path => path.text
      | none => "no config"
    let patterns := if o.patterns.isEmpty then "built-in patterns" else "pattern overrides"
    let workers := o.concurrency.getD processors
    let first := config ++ " · " ++ toString workers ++ " " ++
      pluralise workers "worker" "workers" ++ " · " ++ toString o.extensions.length ++ " " ++
      pluralise o.extensions.length "extension" "extensions" ++ " · " ++ patterns
    let replaced (stage : String) (path : Option Path) : List String :=
      match path with
      | some path => ["  " ++ stage ++ " patterns " ++ path.text]
      | none => []
    if level = 1 then [first]
    else
      [first, "  exclude " ++ String.intercalate " " o.excludeDirs] ++
        replaced "direct" o.patterns.direct ++ replaced "fast" o.patterns.fast ++
        replaced "strict" o.patterns.strict ++ replaced "exclude" o.patterns.exclude

end ScanOptions

/-- What a run leaves behind: the exit code, what was printed, the files, and which of them the run
has written. -/
structure RunOutcome where
  code : Nat
  stdout : List Char
  stderr : List Char
  files : Node
  written : Option Path
  deriving Inhabited

/-- A scan that succeeded and is still to be reported. -/
structure Unreported where
  options : ScanOptions
  /-- What was printed before the scan. -/
  before : List Char
  result : ScanResult

namespace Command

/-- The text of lines. -/
def printed (lines : List String) : List Char := Report.joinLines (lines.map String.toList)

/-- The end of a run that has written no file. -/
def ended (files : Node) (code : Nat) (stdout stderr : List Char) : RunOutcome :=
  ⟨code, stdout, stderr, files, none⟩

/-- The end of a run that fails after printing. -/
def failed (files : Node) (stdout : List Char) (e : RunError) : RunOutcome :=
  ended files 1 stdout ("✖ " ++ MessageChain.text e.chain ++ "\n").toList

/-- The end of a run whose scan succeeded: the report is printed, then the output file is
written. -/
def report (files : Node) (u : Unreported) (time : ScanTime) : RunOutcome :=
  let o := u.options
  let lines := Report.matchLines false u.result
  let (report, content, closing) := match o.format with
    | .text => (Report.text false u.result lines time, Report.plain lines,
        fun (path : Path) => ("✓ Results written to " ++ path.text ++ "\n").toList)
    | .json =>
      let document := Report.json o.directory o.extensions u.result time
      (document, document, fun _ => [])
  match o.output with
  | none => ended files 0 (u.before ++ report) []
  | some path => match files.write path (Utf8.encode content) with
    | .ok files => ⟨0, u.before ++ report ++ closing path, [], files, some path⟩
    | .error cause => failed files (u.before ++ report) (.output path cause)

/-- The run with arguments up to the report, or its end if it comes before. -/
def scanWith (a : Arguments) (files : Node) (processors : Nat) : Except RunOutcome Unreported :=
  match ScanOptions.load files a with
  | .error e => .error (failed files [] (.options e))
  | .ok o =>
    let before := match o.format with
      | .text => printed (o.header ++ o.explanation processors a.verbose)
      | .json => []
    match o.scan files processors with
    | .error e => .error (failed files before e)
    | .ok r => .ok ⟨o, before, r⟩

/-- The version of the program. -/
def versionText : String := "fasthog 0.4.0\n"

/-- How the command is used. This line stands for all that is said about the options when help is
asked for, and about what is wrong with malformed arguments; these texts are left out. -/
def usage : String :=
  "Usage: fasthog [OPTIONS] [DIRECTORY]\n"

/-- The run up to the report, or its end if it comes before. Arguments that are malformed end it
with code 2. -/
def scan (arguments : List String) (files : Node) (processors : Nat) :
    Except RunOutcome Unreported :=
  match Arguments.read arguments with
  | .ok a => scanWith a files processors
  | .error .help => .error (ended files 0 usage.toList [])
  | .error .version => .error (ended files 0 versionText.toList [])
  | .error _ => .error (ended files 2 [] usage.toList)

/-- The run of the command. -/
def run (arguments : List String) (files : Node) (processors : Nat) (time : ScanTime) :
    RunOutcome :=
  match scan arguments files processors with
  | .ok u => report files u time
  | .error outcome => outcome

end Command

end SecretScan
