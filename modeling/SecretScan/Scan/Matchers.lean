import SecretScan.Pattern.Sources

/-!
# The check of a line

A line is reported if it is not short, the fast stage admits it, the strict stage finds a secret in
it, and the exclude stage does not discard it.
-/

namespace SecretScan

/-- The compiled stages. -/
structure Matchers where
  fast : Matcher
  strict : Matcher
  exclude : Matcher

namespace Matchers

/-- Compiles each stage from its sources: exclude, then fast, then strict. -/
def compile (files : Node) (s : Pattern.Sources) : Except PatternError Matchers := do
  let exclude ← Matcher.ofSources files .exclude s.exclude
  let fast ← Matcher.ofSources files .fast s.fast
  let strict ← Matcher.ofSources files .strict s.strict
  return ⟨fast, strict, exclude⟩

/-- Compiles each stage from lines at hand, in the same order. -/
def ofLines (fast strict exclude : List (List Char)) : Except PatternError Matchers := do
  let exclude ← (Matcher.ofLines .exclude exclude).mapError (.invalid .exclude)
  let fast ← (Matcher.ofLines .fast fast).mapError (.invalid .fast)
  let strict ← (Matcher.ofLines .strict strict).mapError (.invalid .strict)
  return ⟨fast, strict, exclude⟩

/-- The built-in stages. -/
def builtIn : Except PatternError Matchers := compile Node.emptyDir Pattern.Sources.builtIn

/-- A line of so many bytes or fewer is short. -/
def shortLine : Nat := 8

/-- The secret in a line according to the three stages. An empty match is no secret. -/
def report (m : Matchers) (line : List Char) : Option (List Char) :=
  if m.fast.isMatch line then
    match m.strict.find line with
    | some (c :: secret) => if m.exclude.isMatch line then none else some (c :: secret)
    | _ => none
  else none

/-- The secret in a line, unless the line is short. -/
def check (m : Matchers) (line : List Char) : Option (List Char) :=
  if Utf8.size line ≤ shortLine then none else m.report line

end Matchers

end SecretScan
