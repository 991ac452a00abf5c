/-!
# Shell escapes

Pattern lines may carry one level of shell escaping, in which a backslash and a double quote are
each written after a backslash. `Pattern.unescape` takes that level off.
-/

namespace SecretScan.Pattern

/-- Replaces a backslash and the backslash or double quote after it by the latter, in one pass from
left to right. -/
def unescape : List Char → List Char
  | '\\' :: '\\' :: cs => '\\' :: unescape cs
  | '\\' :: '"' :: cs => '"' :: unescape cs
  | c :: cs => c :: unescape cs
  | [] => []

/-- Writes a backslash before every backslash and every double quote. -/
def escape (cs : List Char) : List Char :=
  cs.flatMap fun c => if c = '\\' ∨ c = '"' then ['\\', c] else [c]

end SecretScan.Pattern
