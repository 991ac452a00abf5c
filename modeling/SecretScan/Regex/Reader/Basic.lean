import SecretScan.Regex.Basic
import SecretScan.Text.Blank

/-!
# Reading the text of an expression: flags and blanks

What all parts of the reader share: why a text is no expression, the flags that are in force, and
the characters that verbose mode hides.
-/

namespace SecretScan.Regex

/-- Why a text is not a regular expression. -/
inductive ReadError where
  | unclosedGroup
  | unopenedGroup
  | badFlags
  | badGroupName
  | duplicateGroupName
  | nothingToRepeat
  | badBounds
  | badEscape
  | unclosedBracket
  | badRange
  | unknownProperty
  /-- Without the Unicode flag, what matches more than ASCII is refused. -/
  | needsUnicode
  | tooDeep
  | tooLarge
  deriving DecidableEq, Repr

/-- The flags in force at a point of an expression. -/
structure Flags where
  ignoreCase : Bool := false
  multiLine : Bool := false
  dotMatchesAll : Bool := false
  swapGreed : Bool := false
  unicode : Bool := true
  /-- A carriage return ends a line too. -/
  anyLineEnd : Bool := false
  /-- Blanks and comments in the expression are hidden. -/
  verbose : Bool := false
  deriving DecidableEq, Repr

/-- Sets the flag with the given letter; `none` if there is none. -/
def Flags.set? (f : Flags) (letter : Char) (on : Bool) : Option Flags :=
  match letter with
  | 'i' => some { f with ignoreCase := on }
  | 'm' => some { f with multiLine := on }
  | 's' => some { f with dotMatchesAll := on }
  | 'U' => some { f with swapGreed := on }
  | 'u' => some { f with unicode := on }
  | 'R' => some { f with anyLineEnd := on }
  | 'x' => some { f with verbose := on }
  | _ => none

namespace Reader

/-- The longest run of characters that satisfy `keep`, and the rest after it. In verbose mode blanks
and comments are passed over, also at the end of the run; a comment reaches from `#` through the end
of the line. `comment` tells whether reading starts inside a comment. -/
def spanVisible (keep : Char → Bool) (verbose comment : Bool) : List Char → List Char × List Char
  | [] => ([], [])
  | c :: cs =>
    if comment then spanVisible keep verbose (c != '\n') cs
    else if verbose && isBlank c then spanVisible keep verbose false cs
    else if verbose && c == '#' then spanVisible keep verbose true cs
    else if keep c then
      let (run, rest) := spanVisible keep verbose false cs
      (c :: run, rest)
    else ([], c :: cs)

/-- The text from its first visible character on. -/
def skip (verbose : Bool) (cs : List Char) : List Char :=
  (spanVisible (fun _ => false) verbose false cs).2

/-- The character that decides whether a `-` in a bracket stands between the ends of a range: the
first one in sight, where a single `#` is passed over in verbose mode, and what follows it is not.
-/
def peek (verbose : Bool) (cs : List Char) : Option Char :=
  if verbose then
    match cs.dropWhile isBlank with
    | '#' :: rest => (rest.dropWhile isBlank).head?
    | rest => rest.head?
  else cs.head?

end Reader

end SecretScan.Regex
