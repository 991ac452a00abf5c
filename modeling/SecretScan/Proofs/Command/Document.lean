import SecretScan.Proofs.Command.Output
import SecretScan.Proofs.Command.Run
import SecretScan.Proofs.Json.Writer

/-!
# What a run prints for programs

If the results are to be a document, then a run prints this document and nothing else, and the output
file holds the same (`Command.run_prints_document`).
-/

namespace SecretScan

/-- The document for a scan that succeeded. -/
def Unreported.document (u : Unreported) (time : ScanTime) : List Char :=
  Report.json u.options.directory u.options.extensions u.result time

namespace Command

variable {a : Arguments} {files : Node} {processors : Nat}

/-! ## 1. Up to the report -/

/-- Nothing is printed before the scan has succeeded. -/
theorem stdout_of_scanWith_eq_error {out : RunOutcome}
    (h : scanWith a files processors = .error out)
    (hformat : ∀ o, ScanOptions.load files a = .ok o → o.format = .json) :
    out.stdout = [] ∧ ∀ o, ScanOptions.load files a = .ok o →
      ∀ r, o.scan files processors ≠ .ok r := by
  have hcourse := course_scanWith a files processors
  rw [h] at hcourse
  -- either there are no options, or the scan itself fails and only its opening could be printed
  cases hcourse with
  | noOptions e hload =>
    refine ⟨rfl, fun o ho => ?_⟩
    rw [hload] at ho
    cases ho
  | scanFails o e hload hscan =>
    constructor
    · show o.opening processors a.verbose = []
      rw [ScanOptions.opening, hformat o hload]
    · intro o' ho' r hr
      rw [hload] at ho'
      cases ho'
      rw [hscan] at hr
      cases hr

theorem before_of_scanWith_eq_ok {u : Unreported} (h : scanWith a files processors = .ok u)
    (hformat : u.options.format = .json) : u.before = [] := by
  have hcourse := course_scanWith a files processors
  rw [h] at hcourse
  cases hcourse with
  | scanned o r hload hscan =>
    show o.opening processors a.verbose = []
    rw [ScanOptions.opening, show o.format = .json from hformat]

theorem scanWith_eq_ok {o : ScanOptions} {r : ScanResult}
    (hload : ScanOptions.load files a = .ok o) (hscan : o.scan files processors = .ok r)
    (hformat : o.format = .json) : scanWith a files processors = .ok ⟨o, [], r⟩ := by
  simp only [scanWith, hload, hscan, hformat]

/-! ## 2. The report -/

section

variable {u : Unreported} (hformat : u.options.format = .json) (hbefore : u.before = [])
include hformat hbefore

theorem report_of_output_none (files : Node) (time : ScanTime) (houtput : u.options.output = none) :
    report files u time = ended files 0 (u.document time) [] := by
  simp only [report, hformat, hbefore, houtput, Unreported.document, List.nil_append]

theorem report_of_write {files files' : Node} {time : ScanTime} {path : Path}
    (houtput : u.options.output = some path)
    (hwrite : files.write path (Utf8.encode (u.document time)) = .ok files') :
    report files u time = ⟨0, u.document time, [], files', some path⟩ := by
  rw [Unreported.document] at hwrite
  simp only [report, hformat, hbefore, houtput, hwrite, Unreported.document, List.nil_append,
    List.append_nil]

theorem report_of_write_error {files : Node} {time : ScanTime} {path : Path} {cause : AccessError}
    (houtput : u.options.output = some path)
    (hwrite : files.write path (Utf8.encode (u.document time)) = .error cause) :
    report files u time = failed files (u.document time) (.output path cause) := by
  rw [Unreported.document] at hwrite
  simp only [report, hformat, hbefore, houtput, hwrite, Unreported.document, List.nil_append]

/-- The document is printed also if the output file cannot be written. -/
theorem report_prints (files : Node) (time : ScanTime) :
    (report files u time).stdout = u.document time ∧
      ((report files u time).code = 0 → ∀ path, u.options.output = some path →
        (report files u time).files.read path = .ok (Utf8.encode (u.document time))) := by
  -- the document is printed first, whatever becomes of the file
  cases houtput : u.options.output with
  | none =>
    rw [report_of_output_none hformat hbefore files time houtput]
    exact ⟨rfl, fun _ path hpath => by cases hpath⟩
  | some path =>
    cases hwrite : files.write path (Utf8.encode (u.document time)) with
    | error cause =>
      rw [report_of_write_error hformat hbefore houtput hwrite]
      exact ⟨rfl, fun hcode => absurd hcode Nat.one_ne_zero⟩
    | ok files' =>
      obtain ⟨place, hwritten⟩ := Node.write_replaces hwrite
      rw [report_of_write hformat hbefore houtput hwrite]
      refine ⟨rfl, fun _ path' hpath => ?_⟩
      cases hpath
      exact hwritten.read_eq

end

/-! ## 3. The whole run -/

/-- If the results are to be a document, then a run prints one document and a line feed, which is the
report, if the scan succeeds, and nothing otherwise.  A run that ends well leaves the same bytes in
its output file. -/
theorem run_prints_document {arguments : List String} (files : Node) (processors : Nat)
    (time : ScanTime) (hread : Arguments.read arguments = .ok a)
    (hformat : ∀ o, ScanOptions.load files a = .ok o → o.format = .json) :
    let out := run arguments files processors time
    (out.stdout = [] ∨ ∃ document d, out.stdout = document ++ ['\n'] ∧ Json.IsText document d) ∧
    (out.stdout ≠ [] ↔
      ∃ o r, ScanOptions.load files a = .ok o ∧ o.scan files processors = .ok r) ∧
    (∀ o r, ScanOptions.load files a = .ok o → o.scan files processors = .ok r →
      out.stdout = Report.json o.directory o.extensions r time) ∧
    (out.code = 0 → ∀ o path, ScanOptions.load files a = .ok o → o.output = some path →
      out.files.read path = .ok (Utf8.encode out.stdout)) := by
  have hscan : scan arguments files processors = scanWith a files processors := by rw [scan, hread]
  dsimp only
  rw [run, hscan]
  cases hwith : scanWith a files processors with
  | error out =>
    obtain ⟨hcode, -⟩ := of_scanWith_eq_error hwith
    obtain ⟨hstdout, hnone⟩ := stdout_of_scanWith_eq_error hwith hformat
    refine ⟨.inl hstdout, iff_of_false (not_not.mpr hstdout) ?_, fun o r hload hresult => ?_,
      fun hzero => absurd hzero hcode⟩
    · rintro ⟨o, r, hload, hresult⟩
      exact hnone o hload r hresult
    · exact absurd hresult (hnone o hload r)
  | ok u =>
    obtain ⟨hload, hresult⟩ := of_scanWith_eq_ok hwith
    have hjson := hformat u.options hload
    obtain ⟨hstdout, hwritten⟩ := report_prints hjson
      (before_of_scanWith_eq_ok hwith hjson) files time
    -- the document ends with the brace that closes the report
    have hline : u.document time = (Report.value u.options.directory u.options.extensions u.result
      time).text ++ ['\n'] := rfl
    dsimp only
    rw [hstdout]
    refine ⟨.inr ⟨_, _, hline, Json.isText_text _⟩, iff_of_true ?_ ⟨_, _, hload, hresult⟩,
      fun o r ho hr => ?_, fun hcode o path ho => ?_⟩
    · rw [hline]
      exact List.append_ne_nil_of_right_ne_nil _ (List.cons_ne_nil _ _)
    · -- the options and the result are determined by the files
      rw [hload] at ho
      cases ho
      rw [hresult] at hr
      cases hr
      rfl
    · rw [hload] at ho
      cases ho
      exact hwritten hcode path

/-- A run ends well if its scan succeeds and the output file can be written. -/
theorem code_of_write {arguments : List String} {time : ScanTime} {u : Unreported} {path : Path}
    {files' : Node} (hread : Arguments.read arguments = .ok a)
    (hwith : scanWith a files processors = .ok u) (hformat : u.options.format = .json)
    (houtput : u.options.output = some path)
    (hwrite : files.write path (Utf8.encode (u.document time)) = .ok files') :
    (run arguments files processors time).code = 0 := by
  have hbefore := before_of_scanWith_eq_ok hwith hformat
  simp only [run, scan, hread, hwith, report_of_write hformat hbefore houtput hwrite]

/-- Arguments that ask for a document, a file with it, and all that can be said about the options. -/
def documentArguments : Arguments where
  directory := some ⟨"."⟩
  output := some ⟨"out.json"⟩
  json := true
  verbose := 2

/-- The options that these arguments amount to. -/
def documentOptions : ScanOptions :=
  { savedOptions with format := .json, output := some ⟨"out.json"⟩ }

theorem load_document (content : Bytes) :
    ScanOptions.load (oneFile content) documentArguments = .ok documentOptions := rfl

/-- The document lists the password that is found, nothing is printed besides it, and the output file
holds it. -/
theorem run_prints_document_assigned : ∃ document d result,
    let out := run ["--json", "-vv", "-o", "out.json", "."] (oneFile (assigned [' '])) 1
      ⟨⟨0, 0⟩, ⟨0⟩⟩
    out.code = 0 ∧ out.stdout = document ++ ['\n'] ∧ Json.IsText document d ∧
      out.stdout = Report.json ⟨"."⟩ Config.defaultExtensions result ⟨⟨0, 0⟩, ⟨0⟩⟩ ∧
      result.sortedMatches =
        [⟨⟨"a.py"⟩, 1, "password = \"hunter2222\"", "password = \"hunter2222\""⟩] ∧
      out.files.read ⟨"out.json"⟩ = .ok (Utf8.encode out.stdout) := by
  have hread : Arguments.read ["--json", "-vv", "-o", "out.json", "."] = .ok documentArguments := by
    decide
  have hload := load_document (assigned [' '])
  have hformat : ∀ o, ScanOptions.load (oneFile (assigned [' '])) documentArguments = .ok o →
      o.format = .json := by
    intro o ho
    cases hload.symm.trans ho
    rfl
  obtain ⟨m, hm, hscans⟩ := exists_builtIn_assigned
  simp only [List.all_cons, List.all_nil, Bool.and_true, Bool.and_eq_true, beq_iff_eq] at hscans
  -- the options ask for the scan that finds the line
  obtain ⟨result, -, hscan, hsorted⟩ :=
    scan_oneFile (o := documentOptions) (fun _ => rfl) rfl hm hscans.1
  have hmatch : (⟨1, assignment [' '], assignment [' ']⟩ : Hit).toMatch ⟨"a.py"⟩ =
      ⟨⟨"a.py"⟩, 1, "password = \"hunter2222\"", "password = \"hunter2222\""⟩ := by decide +kernel
  obtain ⟨hdocument, hprinted, hreport, hwritten⟩ :=
    run_prints_document (oneFile (assigned [' '])) 1 ⟨⟨0, 0⟩, ⟨0⟩⟩ hread hformat
  obtain ⟨document, d, hstdout, htext⟩ :=
    hdocument.resolve_left (hprinted.mpr ⟨_, result, hload, hscan⟩)
  have hwrite : ∀ lines, (oneFile (assigned [' '])).write ⟨"out.json"⟩ lines =
      .ok (.dir [("a.py", .file (assigned [' '])), ("out.json", .file lines)]) := fun _ => rfl
  have hcode : (run ["--json", "-vv", "-o", "out.json", "."] (oneFile (assigned [' '])) 1
      ⟨⟨0, 0⟩, ⟨0⟩⟩).code = 0 :=
    code_of_write hread (scanWith_eq_ok hload hscan rfl) rfl rfl (hwrite _)
  have hjson := hreport _ _ hload hscan
  rw [show documentOptions.directory = ⟨"."⟩ from rfl,
    show documentOptions.extensions = Config.defaultExtensions from rfl] at hjson
  rw [hmatch] at hsorted
  exact ⟨document, d, result, hcode, hstdout, htext, hjson, hsorted, hwritten hcode _ _ hload rfl⟩

end Command

end SecretScan
