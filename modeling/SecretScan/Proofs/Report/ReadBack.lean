import SecretScan.Proofs.Json.Writer
import SecretScan.Proofs.Tally.Counts
import SecretScan.Report.Json

/-!
# What a report for programs tells

A report is read with a JSON reader, and its fields are looked up by their names.  Nothing is lost on
the way (`Report.contents?_value`), and the totals in the report agree with the matches in it
(`Report.json_read_back`).
-/

namespace SecretScan

/-! ## 1. Looking things up in a document -/

namespace Json.Data

/-- The only field with a name. -/
def field? (name : String) : Data → Option Data
  | .object fs => match fs.filter fun f => f.1 = name with
    | [f] => some f.2
    | _ => none
  | _ => none

def string? : Data → Option String
  | .string s => some s
  | _ => none

def natural? : Data → Option Nat
  | .number ⟨.ofNat n, 0⟩ => some n
  | _ => none

def list? {α : Type} (item? : Data → Option α) : Data → Option (List α)
  | .array ds => ds.mapM item?
  | _ => none

/-- A list is read if its items are. -/
theorem list?_map {α : Type} {item? : Data → Option α} {itemValue : α → Value}
    (h : ∀ a, item? (itemValue a).data = some a) (as_ : List α) :
    list? item? (.array (itemsData (as_.map itemValue))) = some as_ := by
  rw [list?, itemsData_eq_map, List.map_map]
  induction as_ with
  | nil => rfl
  | cons a as_ ih =>
    rw [List.map_cons, List.mapM_cons, ih, Function.comp_apply, h]
    rfl

end Json.Data

/-! ## 2. The contents of a report -/

namespace Report

/-- What a report tells. -/
structure Contents where
  directory : String
  extensions : List String
  startTime : String
  durationMillis : Nat
  matches_ : List Match
  totalMatches : Nat
  filesWithMatches : Nat
  filesScanned : Nat
  topFiles : List (Path × Nat)

def match? (d : Json.Data) : Option Match := do
  let file ← d.field? "file"
  let line ← d.field? "line"
  let lineText ← d.field? "line_snippet"
  let matched ← d.field? "match_text"
  return ⟨⟨← file.string?⟩, ← line.natural?, ← lineText.string?, ← matched.string?⟩

def file? (d : Json.Data) : Option (Path × Nat) := do
  let file ← d.field? "file"
  let count ← d.field? "match_count"
  return (⟨← file.string?⟩, ← count.natural?)

def contents? (d : Json.Data) : Option Contents := do
  let directory ← d.field? "directory"
  let extensions ← d.field? "extensions"
  let startTime ← d.field? "start_time"
  let duration ← d.field? "duration_ms"
  let matches_ ← d.field? "matches"
  let summary ← d.field? "summary"
  let totalMatches ← summary.field? "total_matches"
  let filesWithMatches ← summary.field? "total_files_with_matches"
  let filesScanned ← summary.field? "total_files_scanned"
  let topFiles ← d.field? "top_files"
  return {
    directory := ← directory.string?
    extensions := ← extensions.list? Json.Data.string?
    startTime := ← startTime.string?
    durationMillis := ← duration.natural?
    matches_ := ← matches_.list? match?
    totalMatches := ← totalMatches.natural?
    filesWithMatches := ← filesWithMatches.natural?
    filesScanned := ← filesScanned.natural?
    topFiles := ← topFiles.list? file? }

theorem match?_matchValue (m : Match) : match? (matchValue m).data = some m := rfl

theorem file?_fileValue (file : Path × Nat) : file? (fileValue file).data = some file := rfl

/-- What the report for a result tells. -/
def contents (directory : Path) (extensions : List String) (r : ScanResult) (time : ScanTime) :
    Contents where
  directory := directory.text
  extensions := extensions
  startTime := time.startedAt.text
  durationMillis := time.elapsed.millis
  matches_ := r.sortedMatches
  totalMatches := r.totalMatches
  filesWithMatches := r.filesWithMatches
  filesScanned := r.filesScanned
  topFiles := r.topFiles r.filesWithMatches

variable (directory : Path) (extensions : List String) (r : ScanResult) (time : ScanTime)

theorem contents?_value :
    contents? (value directory extensions r time).data =
      some (contents directory extensions r time) := by
  have hextensions : Json.Data.list? Json.Data.string?
      (.array (Json.itemsData (extensions.map .string))) = some extensions :=
    Json.Data.list?_map (fun _ => rfl) extensions
  have hmatches := Json.Data.list?_map match?_matchValue r.sortedMatches
  have hfiles := Json.Data.list?_map file?_fileValue (r.topFiles r.filesWithMatches)
  -- all fields but the lists are found by computation
  have hlookup : contents? (value directory extensions r time).data = do
      let extensions' ← Json.Data.list? Json.Data.string?
        (.array (Json.itemsData (extensions.map .string)))
      let matches' ← Json.Data.list? match?
        (.array (Json.itemsData (r.sortedMatches.map matchValue)))
      let files' ← Json.Data.list? file?
        (.array (Json.itemsData ((r.topFiles r.filesWithMatches).map fileValue)))
      return ⟨directory.text, extensions', time.startedAt.text, time.elapsed.millis, matches',
        r.totalMatches, r.filesWithMatches, r.filesScanned, files'⟩ := rfl
  rw [hlookup, hextensions, hmatches, hfiles]
  rfl

/-! ## 3. Agreement -/

/-- The contents are those of a report on these matches, and the totals agree with what they are
totals of.  Paths are the same if their parts are. -/
structure Contents.Faithful (c : Contents) (directory : Path) (extensions : List String)
    (ms : List Match) (candidates : List Path) : Prop where
  directory : c.directory = directory.text
  extensions : c.extensions = extensions
  matches_ : c.matches_ = ((Tally.ofMatches ms).finish candidates).sortedMatches
  complete : c.matches_.Perm ms
  totalMatches : c.totalMatches = c.matches_.length
  totalCounted : c.totalMatches = (c.topFiles.map Prod.snd).sum
  filesWithMatches : c.filesWithMatches = c.topFiles.length
  filesScanned : c.filesScanned = candidates.length
  counted : ∀ e ∈ c.topFiles, e.2 = c.matches_.countP fun m => m.file.parts = e.1.parts

theorem topFiles_perm_counts (r : ScanResult) : (r.topFiles r.filesWithMatches).Perm r.counts := by
  have hlength : (r.counts.mergeSort ScanResult.ranksBefore).length = r.filesWithMatches :=
    List.length_mergeSort r.counts
  rw [ScanResult.topFiles, ← hlength, List.take_length]
  exact List.mergeSort_perm r.counts _

theorem contents_faithful (ms : List Match) (candidates : List Path) :
    (contents directory extensions ((Tally.ofMatches ms).finish candidates) time).Faithful
      directory extensions ms candidates := by
  have hagrees := Tally.agrees_ofMatches ms
  have hfiles := topFiles_perm_counts ((Tally.ofMatches ms).finish candidates)
  have hmatches : ((Tally.ofMatches ms).finish candidates).sortedMatches.Perm
      (Tally.ofMatches ms).matches_ := List.mergeSort_perm _ _
  refine ⟨rfl, rfl, rfl, ?_, hmatches.length_eq.symm, ?_, hfiles.length_eq.symm, rfl,
    fun e he => ?_⟩
  · rwa [Tally.matches_ofMatches] at hmatches
  · exact ((hfiles.map Prod.snd).sum_eq.trans hagrees.total).symm
  · rw [(hagrees.of_mem (hfiles.mem_iff.mp he)).1]
    exact (hmatches.countP_eq _).symm

/-- A report for programs is one JSON value and a line feed.  It can be read in one way only, and
that gives back the directory, the extensions and all matches in order, with totals and counts that
agree with them. -/
theorem json_read_back (ms : List Match) (candidates : List Path) :
    let text := json directory extensions ((Tally.ofMatches ms).finish candidates) time
    ∃ document d c, text = document ++ ['\n'] ∧ Json.IsText document d ∧ Json.read text = some d ∧
      (∀ d', Json.Spells text (.element d') [] → d' = d) ∧
      contents? d = some c ∧ c.Faithful directory extensions ms candidates := by
  let v := value directory extensions ((Tally.ofMatches ms).finish candidates) time
  have hline := Json.spells_text_line v
  exact ⟨v.text, v.data, _, rfl, Json.isText_text v, hline.read_eq,
    fun _ h => h.document_unique hline, contents?_value directory extensions _ time,
    contents_faithful directory extensions time ms candidates⟩

end Report

end SecretScan
