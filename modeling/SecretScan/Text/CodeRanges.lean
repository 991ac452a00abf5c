/-!
# Sets of code points

A set of code points is a list of inclusive ranges that ascend and do not touch the ones before
them. `CodeRanges.covers` is membership; `CodeRanges.unpack` reads the packed form in which the
larger tables of the Unicode standard are written.
-/

namespace SecretScan

/-- Inclusive ranges of code points, in ascending order. -/
abbrev CodeRanges := List (Nat × Nat)

namespace CodeRanges

/-- Whether `c` lies in one of the ranges. As they ascend, the first range above `c` decides. -/
def covers : CodeRanges → Nat → Bool
  | [], _ => false
  | (lo, hi) :: rest, c => if c < lo then false else c ≤ hi || covers rest c

/-- The value of a digit in base 36, whose digits are `0` to `9` and `a` to `z`. -/
def digitValue (c : Char) : Nat :=
  if c.isDigit then c.toNat - '0'.toNat else c.toNat - 'a'.toNat + 10

/-- The numbers in base 36 of a text in which one blank stands between two numbers; `n` is the
value of the digits read so far. -/
def numbersFrom (n : Nat) : List Char → List Nat
  | [] => [n]
  | c :: cs => if c = ' ' then n :: numbersFrom 0 cs else numbersFrom (n * 36 + digitValue c) cs

/-- Turns pairs of a gap and a length into ranges: a range starts `gap` after `start`, holds
`more` further code points, and the next gap is counted from the code point after it. -/
def ofGaps (start : Nat) : List Nat → CodeRanges
  | gap :: more :: rest => (start + gap, start + gap + more) :: ofGaps (start + gap + more + 1) rest
  | _ => []

/-- The ranges of a packed table: a gap and a length for each range, as blank-separated numbers in
base 36, which are spread over lines. -/
def unpack (lines : List String) : CodeRanges :=
  ofGaps 0 (lines.flatMap fun line => numbersFrom 0 line.toList)

end CodeRanges

end SecretScan
