import SecretScan.Text.CaseFold
import SecretScan.Text.CodeRanges

/-!
# Sets of characters

A set is kept as the way it is put together and is evaluated one character at a time:
`CharSet.mem` is the meaning of every constructor.
-/

namespace SecretScan

/-- A set of code points. -/
inductive CharSet where
  /-- The code points from `lo` to `hi`. -/
  | range (lo hi : Nat)
  /-- The code points of a table. -/
  | table (ranges : CodeRanges)
  | union (s t : CharSet)
  | inter (s t : CharSet)
  /-- The members of `s` that are not in `t`. -/
  | diff (s t : CharSet)
  /-- The members of exactly one of the sets. -/
  | symmDiff (s t : CharSet)
  | compl (s : CharSet)
  /-- What differs from a member in case only. -/
  | folded (s : CharSet)
  /-- What differs from a member in the case of an ASCII letter only. -/
  | foldedAscii (s : CharSet)
  deriving Repr, DecidableEq, Inhabited

namespace CharSet

/-- The ASCII letter that differs from `c` in case, or `c` itself. -/
def swapAsciiCase (c : Nat) : Nat :=
  if 0x41 ≤ c && c ≤ 0x5a then c + 0x20
  else if 0x61 ≤ c && c ≤ 0x7a then c - 0x20
  else c

/-- Membership of a code point. -/
def mem : CharSet → Nat → Bool
  | range lo hi, c => lo ≤ c && c ≤ hi
  | table ranges, c => ranges.covers c
  | union s t, c => s.mem c || t.mem c
  | inter s t, c => s.mem c && t.mem c
  | diff s t, c => s.mem c && !t.mem c
  | symmDiff s t, c => s.mem c != t.mem c
  | compl s, c => !s.mem c
  | folded s, c => (CaseFold.variants c).any s.mem
  | foldedAscii s, c => s.mem c || s.mem (swapAsciiCase c)

/-- Whether a character is in the set. -/
def has (s : CharSet) (c : Char) : Bool := s.mem c.toNat

/-- The set with one member. -/
def single (c : Char) : CharSet := range c.toNat c.toNat

/-- The set without members. -/
def empty : CharSet := table []

/-- All code points. -/
def all : CharSet := range 0 0x10ffff

/-- The union of several sets. -/
def unions : List CharSet → CharSet
  | [] => empty
  | [s] => s
  | s :: rest => union s (unions rest)

/-- About how many bytes one range takes in a compiled expression: beyond ASCII a character is
several bytes long, and the automaton reads them one by one. -/
def rangeRoom (hi : Nat) : Nat := if hi < 0x80 then 8 else 64

/-- About how many bytes the set takes in a compiled expression. -/
def room : CharSet → Nat
  | range _ hi => rangeRoom hi
  | table ranges => (ranges.map fun (_, hi) => rangeRoom hi).foldr (· + ·) 0
  | union s t | inter s t | diff s t | symmDiff s t => s.room + t.room
  | compl s => s.room + 900
  | folded s | foldedAscii s => s.room * 2

end CharSet

end SecretScan
