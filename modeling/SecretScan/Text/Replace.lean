/-!
# Replacing a part of a text
-/

namespace SecretScan

/-- Replaces the first occurrence of `part` by `new`. An empty part occurs at the start. -/
def replaceFirst (part new : List Char) : List Char → List Char
  | [] => if part = [] then new else []
  | c :: cs =>
    if part.isPrefixOf (c :: cs) then new ++ (c :: cs).drop part.length
    else c :: replaceFirst part new cs

end SecretScan
