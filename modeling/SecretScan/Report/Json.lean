import SecretScan.Json.Writer
import SecretScan.Report.Text

/-!
# The report for programs

The outcome of a scan as one JSON document.
-/

namespace SecretScan.Report

/-- A match as a JSON object. -/
def matchValue (m : Match) : Json.Value :=
  .object [("file", .string m.file.text), ("line", .number m.line),
    ("line_snippet", .string m.lineText), ("match_text", .string m.matched)]

/-- A file and the number of its matches as a JSON object. -/
def fileValue (file : Path × Nat) : Json.Value :=
  .object [("file", .string file.1.text), ("match_count", .number file.2)]

/-- The report as a JSON value. All files with matches are listed. -/
def value (directory : Path) (extensions : List String) (r : ScanResult) (time : ScanTime) :
    Json.Value :=
  .object [
    ("directory", .string directory.text),
    ("extensions", .array (extensions.map .string)),
    ("start_time", .string time.startedAt.text),
    ("duration_ms", .number time.elapsed.millis),
    ("matches", .array (r.sortedMatches.map matchValue)),
    ("summary", .object [
      ("total_matches", .number r.totalMatches),
      ("total_files_with_matches", .number r.filesWithMatches),
      ("total_files_scanned", .number r.filesScanned)]),
    ("top_files", .array ((r.topFiles r.filesWithMatches).map fileValue))]

/-- The report as a document, which ends with a line feed. -/
def json (directory : Path) (extensions : List String) (r : ScanResult) (time : ScanTime) :
    List Char :=
  (value directory extensions r time).text ++ ['\n']

end SecretScan.Report
