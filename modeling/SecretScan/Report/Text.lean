import SecretScan.Report.Duration
import SecretScan.Report.Timestamp
import SecretScan.Tally
import SecretScan.Terminal.Strip
import SecretScan.Terminal.Style
import SecretScan.Text.Blank
import SecretScan.Text.Replace

/-!
# The report for readers

One line for each match, a table of the files with the most matches if many files were scanned, and
a summary. The same lines without styles are the content of an output file.
-/

namespace SecretScan

/-- When a scan started and how long it took. -/
structure ScanTime where
  startedAt : Timestamp
  elapsed : Duration
  deriving DecidableEq, Repr

namespace Report

open Terminal (Style)

/-- The text followed by blanks up to a width in characters. -/
def padRight (width : Nat) (text : List Char) : List Char :=
  text ++ List.replicate (width - text.length) ' '

/-- A line number in at least four digits. -/
def lineNumber (n : Nat) : List Char :=
  let digits := Nat.toDigits 10 n
  List.replicate (4 - digits.length) '0' ++ digits

/-- The line for a match: the path, the number, and the line itself, in which the first occurrence
of the secret is styled. -/
def matchLine (colour : Bool) (m : Match) : List Char :=
  let secret := m.matched.toList
  let line := replaceFirst secret (Style.secret.apply colour secret) m.lineText.toList
  Style.accent.apply colour m.file.text.toList ++
    Style.muted.apply colour (':' :: lineNumber m.line) ++ ' ' ::
    Blank.trimEnd (Blank.trimStart line)

/-- The lines for all matches, by file and line. -/
def matchLines (colour : Bool) (r : ScanResult) : List (List Char) :=
  r.sortedMatches.map (matchLine colour)

/-- Lines as one text. -/
def joinLines (lines : List (List Char)) : List Char := lines.flatMap fun line => line ++ ['\n']

/-- How many files the table shows; it is shown only if more were scanned. -/
def tableSize : Nat := 10

/-- The table of the files with the most matches. -/
def table (colour : Bool) (r : ScanResult) : List (List Char) :=
  let heading := "Secrets | File Path".toList ++ List.replicate 48 ' '
  [] :: Style.tableHeader.apply colour heading ::
    (r.topFiles tableSize).map fun (path, count) =>
      Style.secondary.apply colour
        (padRight 7 (toString count).toList ++ " | ".toList ++ padRight 9 path.text.toList)

/-- The last line. -/
def summary (r : ScanResult) (time : ScanTime) : List Char :=
  ("Completed in " ++ time.elapsed.text ++ ": " ++ toString r.totalMatches ++
    " matches across " ++ toString r.filesWithMatches ++ " of " ++ toString r.filesScanned ++
    " files").toList

/-- The report, given the lines for the matches. -/
def text (colour : Bool) (r : ScanResult) (lines : List (List Char)) (time : ScanTime) :
    List Char :=
  joinLines ([[], "Results:".toList] ++ lines ++
    (if tableSize < r.filesScanned then table colour r else []) ++ [[], summary r time])

/-- The content of an output file: lines without styles. -/
def plain (lines : List (List Char)) : List Char := joinLines (lines.map Terminal.strip)

end Report

/-- The word that fits a count. -/
def pluralise (count : Nat) (singular plural : String) : String :=
  if count = 1 then singular else plural

end SecretScan
