import SecretScan.Files.Resolve
import SecretScan.Pattern.Matcher

/-!
# Sources of patterns

Pattern lines come from files or from data at hand. All sources of a stage are read before the stage
is compiled, so a source that cannot be read wins over a pattern that is no expression.
-/

namespace SecretScan

/-- Why a stage has no matcher. -/
inductive PatternError where
  | read (name : String) (cause : AccessError)
  | encoding (name : String) (fault : Utf8.Fault)
  | invalid (stage : Stage) (cause : Regex.ReadError)
  deriving DecidableEq, Repr

/-- The wording of an error. What is wrong with an expression comes after it in the words of the
library that reads expressions, and is left out here. -/
def PatternError.message : PatternError → String
  | read name cause => "unable to load patterns from '" ++ name ++ "': " ++ cause.message
  | encoding name fault => "pattern source '" ++ name ++ "' is not valid UTF-8: " ++ fault.message
  | invalid stage _ => "failed to compile " ++ stage.name ++ " patterns"

namespace Pattern

/-- Where pattern lines come from. -/
inductive Source where
  | file (path : Path)
  | data (name : String) (content : Bytes)
  deriving DecidableEq, Repr

namespace Source

/-- The name of a source in messages. -/
def name : Source → String
  | file path => path.text
  | data name _ => name

/-- The content of a source. -/
def content (files : Node) : Source → Except PatternError Bytes
  | file path => (files.read path).mapError (.read path.text)
  | data _ content => .ok content

/-- The lines of a source. A line feed ends a line, and one carriage return before it is dropped. -/
def lines (files : Node) (s : Source) : Except PatternError (List (List Char)) := do
  let content ← s.content files
  let text ← (Utf8.decode content).mapError (.encoding s.name)
  return (Line.split '\n' text).map (Line.dropFinal '\r')

end Source

end Pattern

/-- Compiles the lines of all sources, in order. -/
def Matcher.ofSources (files : Node) (stage : Stage) (sources : List Pattern.Source) :
    Except PatternError Matcher := do
  let lines ← sources.mapM (·.lines files)
  (Matcher.ofLines stage lines.flatten).mapError (.invalid stage)

end SecretScan
