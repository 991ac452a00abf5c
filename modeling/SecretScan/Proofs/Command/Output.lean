import SecretScan.Proofs.Command.Precedence
import SecretScan.Proofs.Command.Run
import SecretScan.Proofs.Report.Plain
import SecretScan.Proofs.Scan.Excerpt

/-!
# What an output file holds

A report for readers is printed and written as one line for each match.  The lines of the output
file are those that were printed exactly if there are no control characters in what is shown of the
matches (`Command.output_holds_lines`).  Control characters are taken out together with the styles,
also if there are no styles (`Command.output_loses_tabulator`).
-/

namespace SecretScan

/-! ## 1. The matches of a scan -/

namespace ScanRequest

variable {r : ScanRequest} {files : Node}

/-- The lines of a result are trimmed. -/
theorem trim_of_mem_matches {seen : Path → Node} {result : ScanResult}
    (h : (r.runSeeing files seen).result = .ok result) {m : Match} (hm : m ∈ result.matches_) :
    Blank.trim m.lineText = m.lineText := by
  have hexcerpt : r.Excerpt seen m := by
    cases hroot : checkRoot files r.root with
    | error e =>
      unfold runSeeing at h
      simp only [hroot] at h
      cases h
    | ok =>
      rw [runSeeing_eq hroot] at h
      obtain ⟨hreach, -⟩ := Pool.run_over (r.candidates files) (r.work seen) r.concurrency
      exact excerpt_of_shows hreach (.inr ⟨result, h, hm⟩)
  -- a line is trimmed when its match is made
  obtain ⟨content, line, -, -, htext, -⟩ := hexcerpt.source
  have hidem := Blank.isTrimmed_trimmed line
  rw [Blank.IsTrimmed] at hidem
  rw [htext, Blank.trim, Blank.trim, String.toList_ofList, String.toList_ofList, hidem]

end ScanRequest

/-! ## 2. What a report leaves -/

open Terminal (isControl isShown strip)

/-- How the lines of the output file have to do with those that were printed. -/
structure RunOutcome.HoldsLines (out : RunOutcome) (path : Path) (r : ScanResult) : Prop where
  /-- The lines are those of all matches, by file and line, and trimmed. -/
  sorted : r.sortedMatches.Perm r.matches_ ∧ r.sortedMatches.Pairwise fun a b => a.place ≤ b.place
  trimmed : ∀ m ∈ r.matches_, Blank.trim m.lineText = m.lineText
  printed : ∃ before after, out.stdout = before ++ ("Results:\n".toList ++
    Report.joinLines (r.sortedMatches.map Match.shown)) ++ after
  written : out.files.read path =
    .ok (Utf8.encode (Report.plain (r.sortedMatches.map Match.shown)))
  /-- A line is written as it was printed exactly if all of it is shown on a terminal. -/
  kept : ∀ m ∈ r.matches_, strip m.shown = m.shown ↔ ∀ c ∈ m.texts, isShown c = true
  /-- The lines of the file are those that were printed exactly if no control character is in
  them. -/
  lines : Line.terminated '\n' (Report.plain (r.sortedMatches.map Match.shown)) =
      r.sortedMatches.map Match.shown ↔
    ∀ m ∈ r.matches_, ∀ c ∈ m.texts, isControl c = false

namespace Command

variable {u : Unreported} {path : Path} {files : Node} {time : ScanTime}

/-- The lines are printed after a heading, and without styles they are written. -/
theorem report_writes_lines (hformat : u.options.format = .text) (houtput : u.options.output = some path)
    (hcode : (report files u time).code = 0) :
    (∃ before after, (report files u time).stdout = before ++ ("Results:\n".toList ++
      Report.joinLines (Report.matchLines false u.result)) ++ after) ∧
    (report files u time).files.read path =
      .ok (Utf8.encode (Report.plain (Report.matchLines false u.result))) := by
  simp only [report, hformat, houtput] at hcode ⊢
  generalize Report.matchLines false u.result = lines at hcode ⊢
  -- a report that ends well has written its file
  cases hwrite : files.write path (Utf8.encode (Report.plain lines)) with
  | error cause =>
    rw [hwrite] at hcode
    exact absurd hcode Nat.one_ne_zero
  | ok files' =>
    obtain ⟨place, hreplaces⟩ := Node.write_replaces hwrite
    obtain ⟨after, htext⟩ := Report.exists_text_eq false u.result lines time
    refine ⟨⟨u.before ++ ['\n'],
      after ++ ("✓ Results written to " ++ path.text ++ "\n").toList, ?_⟩, hreplaces.read_eq⟩
    rw [htext]
    simp only [List.append_assoc]

/-- The lines of a scan are found in the output file after a report. -/
theorem report_holdsLines (hformat : u.options.format = .text)
    (houtput : u.options.output = some path) (hcode : (report files u time).code = 0)
    (htrim : ∀ m ∈ u.result.matches_, Blank.trim m.lineText = m.lineText) :
    (report files u time).HoldsLines path u.result := by
  obtain ⟨hprinted, hwritten⟩ := report_writes_lines hformat houtput hcode
  rw [Report.matchLines_false htrim] at hprinted hwritten
  have hmem : ∀ {m}, m ∈ u.result.sortedMatches ↔ m ∈ u.result.matches_ := List.mem_mergeSort
  refine ⟨⟨List.mergeSort_perm _ _, u.result.pairwise_sortedMatches⟩, htrim, hprinted, hwritten,
    fun m _ => ?_, ?_⟩
  · rw [Terminal.strip_eq_self_iff]
    exact Match.forall_mem_shown fun c hc => (Terminal.isControl_eq_false_iff.mp hc).2
  · rw [Report.terminated_plain_iff, List.forall_mem_map]
    exact forall_congr' fun m => imp_congr hmem (Match.forall_mem_shown fun _ hc => hc)

/-! ## 3. The whole run -/

theorem mapError_eq_ok_iff {ε ε' α : Type} {x : Except ε α} {f : ε → ε'} {value : α} :
    x.mapError f = .ok value ↔ x = .ok value := by
  cases x <;> simp [Except.mapError]

/-- A scan with options succeeds exactly if nothing that it takes fails. -/
theorem scan_eq_ok_iff {o : ScanOptions} {processors : Nat} {result : ScanResult} :
    o.scan files processors = .ok result ↔ ∃ m, checkRoot files o.directory = .ok () ∧
      Matchers.compile files (.withFiles o.patterns) = .ok m ∧
      ((o.request m processors).run files).result = .ok result := by
  unfold ScanOptions.scan
  -- the root is checked first, then the patterns are compiled, then the files are read
  cases checkRoot files o.directory with
  | error e => exact iff_of_false (by rintro ⟨⟩) (by rintro ⟨m, ⟨⟩, -⟩)
  | ok _ =>
    cases Matchers.compile files (.withFiles o.patterns) with
    | error e => exact iff_of_false (by rintro ⟨⟩) (by rintro ⟨m, -, ⟨⟩, -⟩)
    | ok m =>
      refine mapError_eq_ok_iff.trans ⟨fun hrun => ⟨m, rfl, rfl, hrun⟩, ?_⟩
      rintro ⟨m', -, hm, hrun⟩
      cases hm
      exact hrun

/-- A run whose scan succeeds comes to its report. -/
theorem exists_run_eq {arguments : List String} {processors : Nat} {a : Arguments} {o : ScanOptions}
    {r : ScanResult} (time : ScanTime) (hread : Arguments.read arguments = .ok a)
    (hload : ScanOptions.load files a = .ok o) (hscan : o.scan files processors = .ok r) :
    ∃ before, run arguments files processors time = report files ⟨o, before, r⟩ time := by
  have hcourse := course_scanWith a files processors
  rw [run, show scan arguments files processors = scanWith a files processors by rw [scan, hread]]
  generalize scanWith a files processors = course at hcourse
  -- only the last of the three courses goes with what is given
  cases hcourse with
  | noOptions e hnone => cases hload.symm.trans hnone
  | scanFails o' e hload' hfails =>
    cases hload.symm.trans hload'
    cases hscan.symm.trans hfails
  | scanned o' r' hload' hscan' =>
    cases hload.symm.trans hload'
    cases hscan.symm.trans hscan'
    exact ⟨_, rfl⟩

/-- If the results are to be lines and a file is to hold them, then a run that ends well has printed
one line for each match, in the order of files and lines, and the file holds these lines, each
without what is not shown of it on a terminal.  The lines of the file are the same as those that
were printed exactly if there is no control character in any path or line of a match.  This is so for
any stages, also if files change while the scan is running. -/
theorem output_holds_lines (files : Node) (path : Path) (time : ScanTime) :
    (∀ {r : ScanRequest} {tree : Node} {seen : Path → Node} {u : Unreported},
      (r.runSeeing tree seen).result = .ok u.result → u.options.format = .text →
      u.options.output = some path → (report files u time).code = 0 →
      (report files u time).HoldsLines path u.result) ∧
    ∀ {arguments : List String} {processors : Nat} {a : Arguments} {o : ScanOptions},
      Arguments.read arguments = .ok a → ScanOptions.load files a = .ok o → o.format = .text →
      o.output = some path → (run arguments files processors time).code = 0 → ∃ result,
        o.scan files processors = .ok result ∧
          (run arguments files processors time).HoldsLines path result := by
  refine ⟨fun hresult hformat houtput hcode => report_holdsLines hformat houtput hcode fun m hm =>
    ScanRequest.trim_of_mem_matches hresult hm, ?_⟩
  intro arguments processors a o hread hload hformat houtput hcode
  have hscan : scan arguments files processors = scanWith a files processors := by rw [scan, hread]
  rw [run, hscan] at hcode ⊢
  -- a run without a report does not end well
  cases hwith : scanWith a files processors with
  | error out =>
    rw [hwith] at hcode
    exact absurd hcode (of_scanWith_eq_error hwith).1
  | ok u =>
    rw [hwith] at hcode
    obtain ⟨hload', hresult⟩ := of_scanWith_eq_ok hwith
    cases hload.symm.trans hload'
    obtain ⟨m, -, -, hrun⟩ := scan_eq_ok_iff.mp hresult
    exact ⟨u.result, hresult, report_holdsLines hformat houtput hcode fun m hm =>
      ScanRequest.trim_of_mem_matches hrun hm⟩

/-- A line that assigns a password. -/
def assignment (gap : List Char) : List Char :=
  "password".toList ++ gap ++ "= \"hunter2222\"".toList

/-- The content of a file with this line. -/
def assigned (gap : List Char) : Bytes := Utf8.encode (assignment gap ++ ['\n'])

/-- A directory with this file. -/
def oneFile (content : Bytes) : Node := .dir [("a.py", .file content)]

/-- Arguments that give a directory and an output file. -/
def savedArguments : Arguments where
  directory := some ⟨"."⟩
  output := some ⟨"out.txt"⟩

theorem savedArguments_read : Arguments.read [".", "-o", "out.txt"] = .ok savedArguments := by decide

/-- The options that these arguments amount to. -/
def savedOptions : ScanOptions where
  directory := ⟨"."⟩
  extensions := Config.defaultExtensions
  customExtensions := false
  excludeDirs := Config.mergeExcludeDirs []
  format := .text
  output := some ⟨"out.txt"⟩
  concurrency := none
  patterns := {}
  configPath := none

set_option maxRecDepth 100000 in
/-- The built-in stages find a password after a blank and after a tabulator. -/
theorem exists_builtIn_assigned : ∃ m, Matchers.builtIn = .ok m ∧ [[' '], ['\t']].all (fun gap =>
    m.scan (assigned gap) == [⟨1, assignment gap, assignment gap⟩]) = true := by
  have hnil : ([] : List String).map String.toList = [] := rfl
  apply Matchers.exists_builtIn_of_any
  iterate 4
    · repeat apply Pattern.map_toList_cons
      exact hnil
  · decide +kernel
  · decide +kernel

theorem load_saved (content : Bytes) :
    ScanOptions.load (oneFile content) savedArguments = .ok savedOptions := rfl

theorem lookup_oneFile (content : Bytes) :
    (oneFile content).lookup ⟨"."⟩ = .ok (oneFile content) := rfl

theorem candidates_oneFile (content : Bytes) (m : Matchers) :
    (savedOptions.request m 1).candidates (oneFile content) = [⟨"a.py"⟩] := by
  have hpaths : [Path.ofNames ["a.py"]].filter (Walker.hasExtension ·
      (Walker.ofLists savedOptions.extensions []).extensions) = [⟨"a.py"⟩] := by decide +kernel
  have hname : savedOptions.excludeDirs.contains "a.py" = false := by decide +kernel
  -- the only entry is a file that no excluded name keeps out
  have hentries : entryFiles (oneFile content) savedOptions.excludeDirs ⟨"."⟩
      [("a.py", .file content)] = [["a.py"]] := by
    rw [entryFiles, hname]
    rfl
  show Walker.walk (Walker.ofLists savedOptions.extensions savedOptions.excludeDirs)
    (oneFile content) ⟨"."⟩ = _
  rw [Walker.walk, if_neg (by decide), lookup_oneFile]
  show (((entryFiles (oneFile content) savedOptions.excludeDirs ⟨"."⟩
    [("a.py", .file content)]).map Path.ofNames).filter _).mergeSort Path.le = _
  rw [hentries]
  exact (congrArg (List.mergeSort · Path.le) hpaths).trans (List.mergeSort_singleton _)

/-- What a run finds with options that ask for the same scan as these. -/
theorem scan_oneFile {o : ScanOptions} (hrequest : ∀ m, o.request m 1 = savedOptions.request m 1)
    (hpatterns : o.patterns = {}) {content : Bytes} {m : Matchers} {hit : Hit}
    (hm : Matchers.builtIn = .ok m) (hhit : m.scan content = [hit]) : ∃ result,
      ((savedOptions.request m 1).run (oneFile content)).result = .ok result ∧
      o.scan (oneFile content) 1 = .ok result ∧
      result.sortedMatches = [hit.toMatch ⟨"a.py"⟩] := by
  have hroot : checkRoot (oneFile content) ⟨"."⟩ = .ok () := by
    rw [checkRoot, lookup_oneFile]
    rfl
  have hdirectory : o.directory = ⟨"."⟩ := congrArg ScanRequest.root (hrequest m)
  have hread : ∀ file ∈ [⟨"a.py"⟩],
      (oneFile content).read ((savedOptions.request m 1).root.join file) = .ok content := by
    have hpath : Path.join ⟨"."⟩ ⟨"a.py"⟩ = ⟨"./a.py"⟩ := by decide
    refine List.forall_mem_singleton.mpr ?_
    show (oneFile content).read (Path.join ⟨"."⟩ ⟨"a.py"⟩) = _
    rw [hpath]
    rfl
  -- the candidate can be read, so the scan finds what is in it
  have hcovers := ScanRequest.run_covers hroot (candidates_oneFile content m)
    (List.pairwise_singleton _ _) hread
  rw [Matchers.matchesOf, List.flatMap_singleton] at hcovers
  obtain ⟨result, hresult, -, -, hsorted, -⟩ := hcovers.result
  have hcompile := (Matchers.compile_builtIn (oneFile content)).trans hm
  refine ⟨result, hresult, scan_eq_ok_iff.mpr ⟨m, hdirectory ▸ hroot, hpatterns ▸ hcompile,
    hrequest m ▸ hresult⟩, ?_⟩
  rw [hsorted]
  exact congrArg (List.map (Hit.toMatch ⟨"a.py"⟩)) hhit

/-- The file with the lines is added to the directory. -/
theorem write_oneFile (content lines : Bytes) : (oneFile content).write ⟨"out.txt"⟩ lines =
    .ok (.dir [("a.py", .file content), ("out.txt", .file lines)]) := rfl

/-- A run with these options finds the password and ends well. -/
theorem run_assigned {gap : List Char} (hgap : gap = [' '] ∨ gap = ['\t']) (time : ScanTime) :
    ∃ m result before,
      ((savedOptions.request m 1).run (oneFile (assigned gap))).result = .ok result ∧
      savedOptions.scan (oneFile (assigned gap)) 1 = .ok result ∧
      result.sortedMatches.map Match.shown = ["a.py:0001 ".toList ++ assignment gap] ∧
      run [".", "-o", "out.txt"] (oneFile (assigned gap)) 1 time =
        report (oneFile (assigned gap)) ⟨savedOptions, before, result⟩ time ∧
      (report (oneFile (assigned gap)) ⟨savedOptions, before, result⟩ time).code = 0 := by
  obtain ⟨m, hm, hscans⟩ := exists_builtIn_assigned
  simp only [List.all_cons, List.all_nil, Bool.and_true, Bool.and_eq_true, beq_iff_eq] at hscans
  -- the whole line is the only hit
  have hhit : m.scan (assigned gap) = [⟨1, assignment gap, assignment gap⟩] := by
    rcases hgap with rfl | rfl
    · exact hscans.1
    · exact hscans.2
  obtain ⟨result, hresult, hscan, hsorted⟩ := scan_oneFile (fun _ => rfl) rfl hm hhit
  obtain ⟨before, hrun⟩ := exists_run_eq time savedArguments_read (load_saved _) hscan
  have hwrite := write_oneFile (assigned gap)
    (Utf8.encode (Report.plain (Report.matchLines false result)))
  refine ⟨m, result, before, hresult, hscan, ?_, hrun, ?_⟩
  · rw [hsorted]
    rcases hgap with rfl | rfl <;> decide +kernel
  · simp only [report, savedOptions, hwrite]

/-- The line is written as it is printed if a blank stands before the sign. -/
theorem output_holds_lines_assigned :
    let out := run [".", "-o", "out.txt"] (oneFile (assigned [' '])) 1 ⟨⟨0, 0⟩, ⟨0⟩⟩
    let line := "a.py:0001 password = \"hunter2222\"\n".toList
    out.code = 0 ∧ out.files.read ⟨"out.txt"⟩ = .ok (Utf8.encode line) ∧
    (∃ before after, out.stdout = before ++ ("Results:\n".toList ++ line) ++ after) ∧
    ∃ m result before,
      ((savedOptions.request m 1).run (oneFile (assigned [' ']))).result = .ok result ∧
      (report (oneFile (assigned [' '])) ⟨savedOptions, before, result⟩ ⟨⟨0, 0⟩, ⟨0⟩⟩).HoldsLines
        ⟨"out.txt"⟩ result := by
  obtain ⟨m, result, before, hresult, hscan, hshown, hrun, hcode⟩ :=
    run_assigned (.inl rfl) ⟨⟨0, 0⟩, ⟨0⟩⟩
  obtain ⟨hreports, hruns⟩ := output_holds_lines (oneFile (assigned [' '])) ⟨"out.txt"⟩ ⟨⟨0, 0⟩, ⟨0⟩⟩
  have hreport := hreports (u := ⟨savedOptions, before, result⟩) hresult rfl rfl hcode
  rw [← hrun] at hcode
  obtain ⟨result', hscan', hholds⟩ := hruns savedArguments_read (load_saved _) rfl rfl hcode
  cases hscan.symm.trans hscan'
  have hwritten := hholds.written
  have hprinted := hholds.printed
  rw [hshown] at hwritten hprinted
  exact ⟨hcode, hwritten, hprinted, m, result, before, hresult, hreport⟩

/-- A tabulator before the sign is printed, but the file does not have it. -/
theorem output_loses_tabulator :
    let out := run [".", "-o", "out.txt"] (oneFile (assigned ['\t'])) 1 ⟨⟨0, 0⟩, ⟨0⟩⟩
    out.code = 0 ∧
    out.files.read ⟨"out.txt"⟩ = .ok (Utf8.encode "a.py:0001 password= \"hunter2222\"\n".toList) ∧
    ∃ before after, out.stdout =
      before ++ ("Results:\n".toList ++ "a.py:0001 password\t= \"hunter2222\"\n".toList) ++ after := by
  obtain ⟨m, result, before, hresult, -, hshown, hrun, hcode⟩ :=
    run_assigned (.inr rfl) ⟨⟨0, 0⟩, ⟨0⟩⟩
  have hholds := report_holdsLines rfl rfl hcode fun m hm =>
    ScanRequest.trim_of_mem_matches hresult hm
  have hwritten := hholds.written
  have hprinted := hholds.printed
  rw [hshown] at hwritten hprinted
  dsimp only
  rw [hrun]
  exact ⟨hcode, hwritten, hprinted⟩

end Command

end SecretScan
