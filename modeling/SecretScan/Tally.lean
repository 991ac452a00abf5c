import SecretScan.Files.Path

/-!
# Tallies

Matches are recorded one at a time, and with each the count of its file. `ScanResult` is the tally
of a complete scan, with the views that reports show: matches in order, and the files with the most
matches.
-/

namespace SecretScan

/-- A reported line of a file. -/
structure Match where
  /-- The file, as seen from the root of the scan. -/
  file : Path
  /-- The number of the line. -/
  line : Nat
  /-- The line without the blanks at its ends. -/
  lineText : String
  /-- The secret. -/
  matched : String
  deriving DecidableEq, Repr

/-- Matches in the order in which they were recorded, and the number of matches of each file. -/
structure Tally where
  matches_ : List Match := []
  counts : List (Path × Nat) := []
  deriving DecidableEq, Repr

/-- Counts one more match of a file. A file that has no count yet gets one under this spelling. -/
def Tally.bump (file : Path) : List (Path × Nat) → List (Path × Nat)
  | [] => [(file, 1)]
  | (p, n) :: rest => if p.same file then (p, n + 1) :: rest else (p, n) :: bump file rest

/-- Records a match. -/
def Tally.record (t : Tally) (m : Match) : Tally :=
  ⟨t.matches_ ++ [m], bump m.file t.counts⟩

/-- The outcome of a scan. -/
structure ScanResult where
  matches_ : List Match := []
  /-- The number of matches of each file that has any. -/
  counts : List (Path × Nat) := []
  /-- The files that were scanned. -/
  candidates : List Path := []
  deriving DecidableEq, Repr

/-- The outcome of a scan of some files. -/
def Tally.finish (t : Tally) (candidates : List Path) : ScanResult :=
  ⟨t.matches_, t.counts, candidates⟩

/-- The tally of matches in the order in which they are recorded. -/
def Tally.ofMatches (ms : List Match) : Tally := ms.foldl Tally.record {}

namespace ScanResult

/-- The number of matches. -/
def totalMatches (r : ScanResult) : Nat := r.matches_.length

/-- The number of files with a match. -/
def filesWithMatches (r : ScanResult) : Nat := r.counts.length

/-- The number of files scanned. -/
def filesScanned (r : ScanResult) : Nat := r.candidates.length

/-- Whether a file with its count is ranked before another or equal to it: more matches come first,
and among equal counts the smaller path. -/
def ranksBefore (a b : Path × Nat) : Bool :=
  b.2 < a.2 || (a.2 == b.2 && a.1.le b.1)

/-- The `n` files with the most matches. -/
def topFiles (r : ScanResult) (n : Nat) : List (Path × Nat) :=
  (r.counts.mergeSort ranksBefore).take n

/-- Whether a match comes before another or at the same place, by file and line. -/
def comesBefore (a b : Match) : Bool :=
  if a.file.same b.file then a.line ≤ b.line else a.file.le b.file

/-- The matches by file and line. Matches at the same place keep the order of recording. -/
def sortedMatches (r : ScanResult) : List Match := r.matches_.mergeSort comesBefore

end ScanResult

end SecretScan
