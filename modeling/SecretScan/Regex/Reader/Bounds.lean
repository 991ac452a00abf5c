import SecretScan.Regex.Reader.Basic

/-!
# Bounds of a repetition

The numbers between braces: `{n}`, `{n,}` or `{n,m}`, where blanks may stand around each number.
-/

namespace SecretScan.Regex

/-- How often a repetition may take place; without `most` there is no upper bound. -/
structure Bounds where
  least : Nat
  most : Option Nat
  deriving DecidableEq, Repr

namespace Reader

/-- A decimal number that fits in 32 bits. -/
def readDecimal (verbose : Bool) (cs : List Char) : Option Nat × List Char :=
  let (digits, rest) := spanVisible Char.isDigit verbose false (cs.dropWhile isBlank)
  let n := digits.foldl (fun n d => n * 10 + (d.toNat - '0'.toNat)) 0
  (if digits.isEmpty || UInt32.size ≤ n then none else some n, rest.dropWhile isBlank)

/-- Reads bounds after their opening brace. -/
def readBounds (verbose : Bool) (cs : List Char) : Except ReadError (Bounds × List Char) :=
  match readDecimal verbose (skip verbose cs) with
  | (some least, '}' :: rest) => .ok (⟨least, some least⟩, rest)
  | (some least, ',' :: rest) => match skip verbose rest with
    | '}' :: rest => .ok (⟨least, none⟩, rest)
    | rest => match readDecimal verbose rest with
      | (some most, '}' :: rest) =>
        if least ≤ most then .ok (⟨least, some most⟩, rest) else .error .badBounds
      | _ => .error .badBounds
  | _ => .error .badBounds

/-- Whether a `?` that makes a repetition lazy follows, and the rest. -/
def readLazy : List Char → Bool × List Char
  | '?' :: rest => (true, rest)
  | cs => (false, cs)

end Reader

end SecretScan.Regex
