import Mathlib
import SecretScan.Command.Run
import SecretScan.Proofs.Files.Write

/-!
# What a run changes

A run only reads files until its scan has succeeded, and then writes one file at most.  So a run that
fails leaves all files as they were, and one that succeeds changes no file but its output file, which
holds the results afterwards (`Command.run_changes_output_only`).
-/

namespace SecretScan

namespace ScanOptions

/-- The content of the output file. -/
def rendered (o : ScanOptions) (r : ScanResult) (time : ScanTime) : Bytes :=
  Utf8.encode <| match o.format with
    | .text => Report.plain (Report.matchLines false r)
    | .json => Report.json o.directory o.extensions r time

/-- What is left of the files after the results have been written to the output file, if there is
one. -/
def Leaves (o : ScanOptions) (r : ScanResult) (time : ScanTime) (files files' : Node) : Prop :=
  match o.output with
  | none => files' = files
  | some path => files'.read path = .ok (o.rendered r time) ∧
      ∃ place, Node.Written files path (o.rendered r time) place files'

/-- What is printed before the scan, at a level of verbosity. -/
def opening (o : ScanOptions) (processors level : Nat) : List Char :=
  match o.format with
  | .text => Command.printed (o.header ++ o.explanation processors level)
  | .json => []

end ScanOptions

namespace Command

variable {a : Arguments} {files : Node} {processors : Nat}

/-! ## 1. Up to the report -/

/-- How a run comes to its report or ends before. -/
inductive Course (a : Arguments) (files : Node) (processors : Nat) :
    Except RunOutcome Unreported → Prop
  | noOptions (e : OptionsError) (hload : ScanOptions.load files a = .error e) :
    Course a files processors (.error (failed files [] (.options e)))
  | scanFails (o : ScanOptions) (e : RunError) (hload : ScanOptions.load files a = .ok o)
    (hscan : o.scan files processors = .error e) :
    Course a files processors (.error (failed files (o.opening processors a.verbose) e))
  | scanned (o : ScanOptions) (r : ScanResult) (hload : ScanOptions.load files a = .ok o)
    (hscan : o.scan files processors = .ok r) :
    Course a files processors (.ok ⟨o, o.opening processors a.verbose, r⟩)

theorem course_scanWith (a : Arguments) (files : Node) (processors : Nat) :
    Course a files processors (scanWith a files processors) := by
  rw [scanWith]
  cases hload : ScanOptions.load files a with
  | error e => exact .noOptions e hload
  | ok o =>
    dsimp only
    cases hscan : o.scan files processors with
    | error e => exact .scanFails o e hload hscan
    | ok r => exact .scanned o r hload hscan

theorem of_scanWith_eq_error {out : RunOutcome} (h : scanWith a files processors = .error out) :
    out.code ≠ 0 ∧ out.files = files := by
  have hcourse := course_scanWith a files processors
  rw [h] at hcourse
  cases hcourse with
  | noOptions | scanFails => exact ⟨Nat.one_ne_zero, rfl⟩

theorem of_scanWith_eq_ok {u : Unreported} (h : scanWith a files processors = .ok u) :
    ScanOptions.load files a = .ok u.options ∧ u.options.scan files processors = .ok u.result := by
  have hcourse := course_scanWith a files processors
  rw [h] at hcourse
  cases hcourse with
  | scanned o r hload hscan => exact ⟨hload, hscan⟩

/-! ## 2. The report -/

/-- In both formats, the results are all that is written. -/
theorem exists_report_eq (files : Node) (u : Unreported) (time : ScanTime) :
    ∃ (stdout : List Char) (closing : Path → List Char), report files u time =
      match u.options.output with
      | none => ended files 0 stdout []
      | some path => match files.write path (u.options.rendered u.result time) with
        | .ok files => ⟨0, stdout ++ closing path, [], files, some path⟩
        | .error cause => failed files stdout (.output path cause) := by
  unfold report ScanOptions.rendered
  dsimp only
  cases u.options.format <;> exact ⟨_, _, rfl⟩

/-- A report fails if the output file cannot be written, and then leaves all files as they were. -/
theorem report_leaves (files : Node) (u : Unreported) (time : ScanTime) :
    ((report files u time).code ≠ 0 ∧ (report files u time).files = files) ∨
      ((report files u time).code = 0 ∧
        u.options.Leaves u.result time files (report files u time).files) := by
  obtain ⟨stdout, closing, heq⟩ := exists_report_eq files u time
  rw [heq]
  unfold ScanOptions.Leaves
  -- only a report with an output file writes anything
  cases u.options.output with
  | none => exact .inr ⟨rfl, rfl⟩
  | some path =>
    dsimp only
    cases hwrite : files.write path (u.options.rendered u.result time) with
    | ok files' =>
      obtain ⟨place, hwritten⟩ := Node.write_replaces hwrite
      exact .inr ⟨rfl, hwritten.read_eq, place, hwritten⟩
    | error cause => exact .inl ⟨Nat.one_ne_zero, rfl⟩

/-! ## 3. The whole run -/

/-- A run that fails leaves all files as they were.  So does one that succeeds, except for the output
file if there is one: the place that its path leads to holds the results of the scan afterwards. -/
theorem run_changes_output_only (arguments : List String) (files : Node) (processors : Nat)
    (time : ScanTime) :
    ((run arguments files processors time).code ≠ 0 →
      (run arguments files processors time).files = files) ∧
    ((run arguments files processors time).code = 0 →
      (∀ stop, Arguments.read arguments = .error stop →
        (run arguments files processors time).files = files) ∧
      ∀ a, Arguments.read arguments = .ok a →
        ∃ o r, ScanOptions.load files a = .ok o ∧ o.scan files processors = .ok r ∧
          o.Leaves r time files (run arguments files processors time).files) := by
  cases hread : Arguments.read arguments with
  | error stop =>
    -- the arguments end the run, which has only printed then
    have hfiles : (run arguments files processors time).files = files := by
      unfold run scan
      rw [hread]
      cases stop <;> rfl
    exact ⟨fun _ => hfiles, fun _ => ⟨fun _ _ => hfiles, nofun⟩⟩
  | ok a =>
    have hscan : scan arguments files processors = scanWith a files processors := by
      rw [scan, hread]
    rw [run, hscan]
    cases hwith : scanWith a files processors with
    | error out =>
      obtain ⟨hcode, hfiles⟩ := of_scanWith_eq_error hwith
      exact ⟨fun _ => hfiles, fun hzero => absurd hzero hcode⟩
    | ok u =>
      obtain ⟨hload, hresult⟩ := of_scanWith_eq_ok hwith
      dsimp only
      rcases report_leaves files u time with ⟨hcode, hfiles⟩ | ⟨hcode, hleaves⟩
      · exact ⟨fun _ => hfiles, fun hzero => absurd hzero hcode⟩
      · refine ⟨fun hne => absurd hcode hne, fun _ => ⟨nofun, fun a' ha => ?_⟩⟩
        cases ha
        exact ⟨u.options, u.result, hload, hresult, hleaves⟩

end Command

end SecretScan
