import SecretScan.Pattern.Unescape
import SecretScan.Regex.Reader
import SecretScan.Regex.Search

/-!
# Matchers

A stage of the check of a line is one expression: the alternation of its pattern lines. Comments and
empty lines are no patterns; a stage without patterns matches nothing.
-/

namespace SecretScan

/-- The stages of the check of a line. -/
inductive Stage where
  /-- Discards a line that the other stages report. -/
  | exclude
  /-- Admits a line to the strict stage. -/
  | fast
  /-- Extracts the secret from a line. -/
  | strict
  deriving DecidableEq, Repr

/-- The name of a stage. -/
def Stage.name : Stage → String
  | exclude => "exclude"
  | fast => "fast"
  | strict => "strict"

namespace Pattern

/-- Whether a line holds a pattern: it is not empty and does not start with `#`. -/
def isUsable (line : List Char) : Bool :=
  match line with
  | [] => false
  | c :: _ => c != '#'

/-- The text of the alternation of pattern lines. -/
def alternation : List (List Char) → List Char
  | [] => []
  | [line] => '(' :: line ++ [')']
  | line :: lines => '(' :: line ++ ')' :: '|' :: alternation lines

end Pattern

/-- The expression of one stage. -/
structure Matcher where
  stage : Stage
  /-- There is no expression if there are no patterns. -/
  regex : Option Regex
  patternCount : Nat

namespace Matcher

/-- Compiles the usable ones of some lines. -/
def ofLines (stage : Stage) (lines : List (List Char)) : Except Regex.ReadError Matcher :=
  match lines.filter Pattern.isUsable with
  | [] => .ok ⟨stage, none, 0⟩
  | usable => do
    let regex ← Regex.read (Pattern.unescape (Pattern.alternation usable))
    return ⟨stage, some regex, usable.length⟩

/-- Whether some pattern matches somewhere in a text. -/
def isMatch (m : Matcher) (text : List Char) : Bool :=
  match m.regex with
  | none => false
  | some r => r.matchesIn text

/-- The leftmost match in a text. -/
def find (m : Matcher) (text : List Char) : Option (List Char) :=
  match m.regex with
  | none => none
  | some r => r.find text

end Matcher

end SecretScan
