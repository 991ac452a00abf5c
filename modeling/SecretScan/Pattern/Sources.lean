import SecretScan.Pattern.BuiltIn

/-!
# The sources of the stages

Which sources each stage is compiled from: the built-in ones, unless files take their place.
-/

namespace SecretScan

/-- Files that take the place of built-in patterns. -/
structure PatternFiles where
  direct : Option Path := none
  fast : Option Path := none
  strict : Option Path := none
  exclude : Option Path := none
  deriving DecidableEq, Repr

/-- Whether no file is given. -/
def PatternFiles.isEmpty (f : PatternFiles) : Bool :=
  f.direct.isNone && f.fast.isNone && f.strict.isNone && f.exclude.isNone

namespace Pattern

/-- The sources of each stage, in order. -/
structure Sources where
  fast : List Source
  strict : List Source
  exclude : List Source
  deriving DecidableEq, Repr

namespace Sources

/-- The built-in sources. Direct patterns belong to the fast and to the strict stage. -/
def builtIn : Sources where
  fast := [BuiltIn.direct, BuiltIn.fast]
  strict := [BuiltIn.direct, BuiltIn.strict]
  exclude := [BuiltIn.exclude]

/-- The built-in sources, with files in the place of some. A file for the fast or the exclude stage
replaces the stage; files for direct and strict patterns replace the strict stage together. -/
def withFiles (f : PatternFiles) : Sources where
  fast := match f.fast with
    | some path => [.file path]
    | none => builtIn.fast
  strict :=
    if f.direct.isSome || f.strict.isSome then
      (f.direct.toList ++ f.strict.toList).map Source.file
    else builtIn.strict
  exclude := match f.exclude with
    | some path => [.file path]
    | none => builtIn.exclude

end Sources

end Pattern

end SecretScan
