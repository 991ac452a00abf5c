import SecretScan.Command.Run
import SecretScan.Proofs.Pattern.Faults
import SecretScan.Proofs.Scan.Failure

/-!
# Which failure a scan reports

Much can be wrong at once: with the configuration, the root, the sources of patterns and the files.
What is reported is the first failure in a fixed order of checks (`Check.order`).  Each check is
stated by itself (`Fails`), so that it can fail whether or not the ones before it do.
-/

namespace SecretScan

/-- The sources of a stage. -/
def Pattern.Sources.ofStage (s : Pattern.Sources) : Stage → List Pattern.Source
  | .exclude => s.exclude
  | .fast => s.fast
  | .strict => s.strict

/-- The scan below the directory of the options. -/
def ScanOptions.request (o : ScanOptions) (m : Matchers) (processors : Nat) : ScanRequest where
  root := o.directory
  matchers := m
  extensions := o.extensions
  excluded := o.excludeDirs
  concurrency := o.concurrency.getD processors

namespace Command

open Pattern.Source

variable {files : Node} {a : Arguments} {processors : Nat}

/-! ## 1. The checks -/

/-- What has to hold for a scan to have a result. -/
inductive Check where
  /-- The given configuration file is there. -/
  | configExists
  /-- The configuration file can be read. -/
  | configReadable
  /-- The configuration file holds a configuration. -/
  | configParses
  /-- The arguments or the configuration give a directory. -/
  | directoryGiven
  /-- The directory is there and is one. -/
  | rootUsable
  /-- The sources of a stage can be read and are texts. -/
  | sourcesReadable (stage : Stage)
  /-- The lines of a stage are an expression. -/
  | patternsCompile (stage : Stage)
  /-- All candidates can be read. -/
  | candidatesReadable
  deriving DecidableEq, Repr

/-- The checks of a stage, in order: a source that is no text comes before a line that is no
expression. -/
def Check.ofStage (stage : Stage) : List Check := [sourcesReadable stage, patternsCompile stage]

/-- The order of the checks. -/
def Check.order : List Check :=
  [configExists, configReadable, configParses, directoryGiven, rootUsable] ++
    (ofStage .exclude ++ (ofStage .fast ++ ofStage .strict)) ++ [candidatesReadable]

/-- The configuration file: the given one, or the one in the working directory if there is one. -/
def configFile? (files : Node) (a : Arguments) : Option Path :=
  match a.config with
  | some path => some path
  | none => if files.hasPath Config.fileName then some Config.fileName else none

/-- The configuration in the configuration file, or the one without options. -/
def configOf (files : Node) (a : Arguments) : Config :=
  match configFile? files a with
  | none => {}
  | some path => match files.readText path with
    | .error _ => {}
    | .ok text => match Config.ofDocument path text with
      | .error _ => {}
      | .ok config => config

/-- The directory to scan. -/
def root? (files : Node) (a : Arguments) : Option Path :=
  a.directory.or (configOf files a).directory

/-- The sources of a stage. -/
def sourcesOf (files : Node) (a : Arguments) (stage : Stage) : List Pattern.Source :=
  (Pattern.Sources.withFiles (configOf files a).patterns).ofStage stage

/-- The files below a root that are scanned. -/
def candidatesOf (files : Node) (a : Arguments) (root : Path) : List Path :=
  (Walker.ofLists (ScanOptions.extensionsOf a.types (configOf files a)).1
    (Config.mergeExcludeDirs (configOf files a).excludeDirs)).walk files root

/-- How a check fails, and what is reported then. -/
inductive Fails (files : Node) (a : Arguments) : Check → RunError → Prop
  | configExists {path : Path} (hgiven : a.config = some path)
      (hgone : files.hasPath path = false) :
      Fails files a .configExists (.options (.configNotFound path))
  | configReadable {path : Path} {cause : AccessError} (hfile : configFile? files a = some path)
      (hread : files.readText path = .error cause) :
      Fails files a .configReadable (.options (.config (.read path cause)))
  | configParses {path : Path} {text : List Char} (hfile : configFile? files a = some path)
      (hread : files.readText path = .ok text)
      (hparse : ∀ config, Config.ofDocument path text ≠ .ok config) :
      Fails files a .configParses (.options (.config (.parse path)))
  | directoryGiven (hroot : root? files a = none) :
      Fails files a .directoryGiven (.options .noDirectory)
  | rootExists {root : Path} (hroot : root? files a = some root)
      (hlookup : files.lookup root = .error .notFound) :
      Fails files a .rootUsable (.scan (.rootNotFound root))
  | rootAccess {root : Path} {cause : AccessError} (hroot : root? files a = some root)
      (hlookup : files.lookup root = .error cause) (hcause : cause ≠ .notFound) :
      Fails files a .rootUsable (.scan (.rootAccess root cause))
  | rootIsDirectory {root : Path} {node : Node} (hroot : root? files a = some root)
      (hlookup : files.lookup root = .ok node) (hdir : node.isDir = false) :
      Fails files a .rootUsable (.scan (.rootNotADirectory root))
  | sourcesReadable {stage : Stage} {e : PatternError}
      (hfault : FirstFault files (sourcesOf files a stage) e) :
      Fails files a (.sourcesReadable stage) (.patterns e)
  | patternsCompile {stage : Stage} {cause : Regex.ReadError}
      (hlines : Matcher.ofLines stage
        ((sourcesOf files a stage).flatMap (linesOrNone files)) = .error cause) :
      Fails files a (.patternsCompile stage) (.patterns (.invalid stage cause))
  | candidatesReadable {root file : Path} {cause : AccessError} (hroot : root? files a = some root)
      (hmem : file ∈ candidatesOf files a root)
      (hread : files.read (root.join file) = .error cause) :
      Fails files a .candidatesReadable (.scan (.fileAccess file cause))

/-- Nothing is reported for a check. -/
def Passes (files : Node) (a : Arguments) (check : Check) : Prop := ∀ e, ¬ Fails files a check e

/-- The outcome of checks that are made one after the other: what is reported for the first one that
fails, or a result if none fails. -/
inductive Reports (files : Node) (a : Arguments) : List Check → Except RunError ScanResult → Prop
  | result (r : ScanResult) : Reports files a [] (.ok r)
  | here {check : Check} {rest : List Check} {e : RunError} (hfails : Fails files a check e) :
      Reports files a (check :: rest) (.error e)
  | later {check : Check} {rest : List Check} {x : Except RunError ScanResult}
      (hpasses : Passes files a check) (hrest : Reports files a rest x) :
      Reports files a (check :: rest) x

/-- The checks are made in their order. -/
theorem Reports.eq_error {checks before after : List Check} {check : Check}
    {x : Except RunError ScanResult} (h : Reports files a checks x)
    (hchecks : checks = before ++ check :: after)
    (hbefore : ∀ earlier ∈ before, Passes files a earlier) (hcheck : ¬ Passes files a check) :
    ∃ e, x = .error e ∧ Fails files a check e := by
  -- each check that is made takes one off `before`, until the failing one stands first
  induction h generalizing before with
  | result r => simp at hchecks
  | @here first rest e hfails =>
    cases before with
    | nil =>
      cases hchecks
      exact ⟨e, rfl, hfails⟩
    | cons _ before =>
      cases hchecks
      exact absurd hfails (hbefore _ List.mem_cons_self e)
  | later hpasses _ ih =>
    cases before with
    | nil =>
      cases hchecks
      exact absurd hpasses hcheck
    | cons _ before =>
      cases hchecks
      exact ih rfl fun earlier hmem => hbefore earlier (List.mem_cons_of_mem _ hmem)

theorem Reports.ok_iff {checks : List Check} {x : Except RunError ScanResult}
    (h : Reports files a checks x) :
    (∃ r, x = .ok r) ↔ ∀ check ∈ checks, Passes files a check := by
  induction h with
  | result r => exact ⟨fun _ _ hmem => (nomatch hmem), fun _ => ⟨r, rfl⟩⟩
  | @here check rest e hfails =>
    constructor
    · rintro ⟨r, hr⟩
      cases hr
    · intro hall
      exact absurd hfails (hall _ List.mem_cons_self e)
  | later hpasses _ ih =>
    rw [ih, List.forall_mem_cons]
    exact ⟨fun hall => ⟨hpasses, hall⟩, fun hall => hall.2⟩

/-- A part of a scan makes some checks: it stops with what is reported for the first of them that
fails, or they all pass and what is known of its value holds. -/
inductive Makes {α : Type} (files : Node) (a : Arguments) (checks : List Check) (known : α → Prop) :
    Except RunError α → Prop
  | stops {e : RunError} (hreports : ∀ rest, Reports files a (checks ++ rest) (.error e)) :
      Makes files a checks known (.error e)
  | goes {value : α} (hknown : known value)
      (hpass : ∀ rest x, Reports files a rest x → Reports files a (checks ++ rest) x) :
      Makes files a checks known (.ok value)

section Makes

variable {α β : Type} {checks checks' : List Check} {known : α → Prop} {known' : β → Prop}

theorem Makes.ok {value : α} (h : known value) : Makes files a [] known (.ok value) :=
  .goes h fun _ _ hrest => hrest

/-- The checks of one part come before those of the next one. -/
theorem Makes.bind {y : Except RunError α} {f : α → Except RunError β}
    (h : Makes files a checks known y)
    (hf : ∀ value, known value → Makes files a checks' known' (f value)) :
    Makes files a (checks ++ checks') known' (y >>= f) := by
  cases h with
  | stops hreports =>
    -- the checks of the next part stand behind the one that failed
    refine .stops fun rest => ?_
    rw [List.append_assoc]
    exact hreports (checks' ++ rest)
  | @goes value hknown hpass =>
    have hnext := hf value hknown
    show Makes files a (checks ++ checks') known' (f value)
    generalize f value = y at hnext ⊢
    cases hnext with
    | stops hreports =>
      refine .stops fun rest => ?_
      rw [List.append_assoc]
      exact hpass _ _ (hreports rest)
    | goes hknown' hpass' =>
      refine .goes hknown' fun rest x hrest => ?_
      rw [List.append_assoc]
      exact hpass _ _ (hpass' rest x hrest)

/-- A value computed from the one of a part. -/
theorem Makes.map {y : Except RunError α} {f : α → β} (h : Makes files a checks known y)
    (hf : ∀ value, known value → known' (f value)) :
    Makes files a checks known' (y >>= fun value => .ok (f value)) := by
  cases h with
  | stops hreports => exact .stops hreports
  | goes hknown hpass => exact .goes (hf _ hknown) hpass

/-- A check that fails. -/
theorem Makes.fails {check : Check} {e : RunError} (h : Fails files a check e) :
    Makes files a [check] known (.error e) :=
  .stops fun _ => .here h

/-- A check that passes, before others. -/
theorem Makes.cons {check : Check} {y : Except RunError α} (hpasses : Passes files a check)
    (h : Makes files a checks known y) : Makes files a (check :: checks) known y := by
  cases h with
  | stops hreports => exact .stops fun rest => .later hpasses (hreports rest)
  | goes hknown hpass => exact .goes hknown fun rest x hrest => .later hpasses (hpass rest x hrest)

/-- Checks that are not come to. -/
theorem Makes.append {e : RunError} (h : Makes files a checks known (.error e))
    (later : List Check) : Makes files a (checks ++ later) known (.error e) := by
  cases h with
  | stops hreports =>
    refine .stops fun rest => ?_
    rw [List.append_assoc]
    exact hreports (later ++ rest)

theorem Makes.passes {y : Except RunError α} (h : Makes files a checks known y)
    (hy : y.isOk = true) : ∀ check ∈ checks, Passes files a check := by
  cases h with
  | stops => cases hy
  | goes hknown hpass =>
    have hreports := hpass [] _ (.result {})
    rw [List.append_nil] at hreports
    exact hreports.ok_iff.mp ⟨_, rfl⟩

end Makes

/-! ## 2. The options -/

theorem ofDocument_eq_error {path : Path} {text : List Char} {e : ConfigError}
    (h : Config.ofDocument path text = .error e) : e = .parse path := by
  unfold Config.ofDocument at h
  split at h
  · split at h
    · cases h
    · cases h
      rfl
  · cases h
    rfl

/-- A configuration file that is there is read, and then parsed. -/
theorem makes_read {path : Path} (hfile : configFile? files a = some path)
    (hpath : files.hasPath path = true) :
    Makes files a [.configReadable, .configParses] (fun loaded => loaded.1 = configOf files a)
      ((ScanOptions.loadConfig.read files path).mapError .options) := by
  rw [ScanOptions.loadConfig.read, Config.load, if_pos hpath]
  cases hread : files.readText path with
  | error cause =>
    exact (Makes.fails (.configReadable hfile hread)).append [.configParses]
  | ok text =>
    -- a check of the reading would fail with another outcome of the same reading
    have hreadable : Passes files a .configReadable := by
      intro e hfails
      cases hfails with
      | configReadable hfile' hread' =>
        cases hfile.symm.trans hfile'
        cases hread.symm.trans hread'
    cases hdocument : Config.ofDocument path text with
    | error e =>
      obtain rfl := ofDocument_eq_error hdocument
      have hparse : ∀ config, Config.ofDocument path text ≠ .ok config := by
        intro config hconfig
        cases hdocument.symm.trans hconfig
      simp only [hdocument]
      exact .cons hreadable (.fails (.configParses hfile hread hparse))
    | ok config =>
      have hparses : Passes files a .configParses := by
        intro e hfails
        cases hfails with
        | configParses hfile' hread' hparse =>
          cases hfile.symm.trans hfile'
          cases hread.symm.trans hread'
          exact hparse config hdocument
      have hconfig : configOf files a = config := by
        simp only [configOf, hfile, hread, hdocument]
      simp only [hdocument]
      exact .cons hreadable (.cons hparses (.ok hconfig.symm))

theorem passes_configExists (h : ∀ path, a.config = some path → files.hasPath path = true) :
    Passes files a .configExists := by
  intro e hfails
  cases hfails with
  | configExists hgiven hgone =>
    rw [h _ hgiven] at hgone
    cases hgone

theorem makes_loadConfig (files : Node) (a : Arguments) :
    Makes files a [.configExists, .configReadable, .configParses]
      (fun loaded => loaded.1 = configOf files a)
      ((ScanOptions.loadConfig files a.config).mapError .options) := by
  cases hgiven : a.config with
  | some path =>
    rw [ScanOptions.loadConfig]
    cases hpath : files.hasPath path with
    | true =>
      have hfile : configFile? files a = some path := by rw [configFile?, hgiven]
      have hexists : Passes files a .configExists := passes_configExists fun path' hgiven' => by
        cases hgiven.symm.trans hgiven'
        exact hpath
      exact .cons hexists (makes_read hfile hpath)
    | false =>
      exact (Makes.fails (.configExists hgiven hpath)).append [.configReadable, .configParses]
  | none =>
    -- the file in the working directory need not be there
    have hexists : Passes files a .configExists := passes_configExists fun path hgiven' => by
      cases hgiven.symm.trans hgiven'
    rw [ScanOptions.loadConfig]
    cases hpath : files.hasPath Config.fileName with
    | true =>
      have hfile : configFile? files a = some Config.fileName := by
        rw [configFile?, hgiven]
        exact if_pos hpath
      exact .cons hexists (makes_read hfile hpath)
    | false =>
      -- without a file there is nothing to be read or parsed
      have hfile : configFile? files a = none := by
        rw [configFile?, hgiven]
        exact if_neg (by rw [hpath]; decide)
      have hreadable : Passes files a .configReadable := by
        intro e hfails
        cases hfails with
        | configReadable hfile' => cases hfile.symm.trans hfile'
      have hparses : Passes files a .configParses := by
        intro e hfails
        cases hfails with
        | configParses hfile' => cases hfile.symm.trans hfile'
      have hconfig : configOf files a = {} := by rw [configOf, hfile]
      exact .cons hexists (.cons hreadable (.cons hparses (.ok hconfig.symm)))

/-- What is known of the options of a scan. -/
structure Resolved (files : Node) (a : Arguments) (o : ScanOptions) : Prop where
  root : root? files a = some o.directory
  patterns : o.patterns = (configOf files a).patterns
  candidates : ∀ m processors,
    (o.request m processors).candidates files = candidatesOf files a o.directory

theorem makes_resolve (files : Node) (a : Arguments) (path : Option Path) :
    Makes files a [.directoryGiven] (Resolved files a)
      ((ScanOptions.resolve a (configOf files a) path).mapError .options) := by
  rw [ScanOptions.resolve]
  cases hroot : a.directory.or (configOf files a).directory with
  | none => exact .fails (.directoryGiven hroot)
  | some root =>
    have hgiven : Passes files a .directoryGiven := by
      intro e hfails
      cases hfails with
      | directoryGiven hnone => cases hroot.symm.trans hnone
    exact .cons hgiven (.ok ⟨hroot, rfl, fun _ _ => rfl⟩)

theorem mapError_bind {ε ε' α β : Type} (x : Except ε α) (f : α → Except ε β) (g : ε → ε') :
    (x >>= f).mapError g = x.mapError g >>= fun value => (f value).mapError g := by
  cases x <;> rfl

theorem ok_mapError_bind {ε ε' α β : Type} (value : α) (f : α → Except ε' β) (g : ε → ε') :
    ((Except.ok value).mapError g >>= f) = f value := rfl

theorem makes_load (files : Node) (a : Arguments) :
    Makes files a [.configExists, .configReadable, .configParses, .directoryGiven]
      (Resolved files a) ((ScanOptions.load files a).mapError .options) := by
  rw [ScanOptions.load, mapError_bind]
  refine (makes_loadConfig files a).bind fun loaded hloaded => ?_
  obtain ⟨config, path⟩ := loaded
  obtain rfl : config = configOf files a := hloaded
  exact makes_resolve files a path

/-! ## 3. The root and the patterns -/

theorem makes_checkRoot {root : Path} (hroot : root? files a = some root) :
    Makes files a [.rootUsable] (fun _ => True) ((checkRoot files root).mapError .scan) := by
  rw [checkRoot]
  cases hlookup : files.lookup root with
  | ok node =>
    cases hdir : node.isDir with
    | true =>
      have husable : Passes files a .rootUsable := by
        intro e hfails
        cases hfails with
        | rootExists hroot' hlookup' | rootAccess hroot' hlookup' =>
          cases hroot.symm.trans hroot'
          cases hlookup.symm.trans hlookup'
        | rootIsDirectory hroot' hlookup' hdir' =>
          cases hroot.symm.trans hroot'
          cases hlookup.symm.trans hlookup'
          cases hdir.symm.trans hdir'
      simp only [hdir]
      exact .cons husable (.ok trivial)
    | false =>
      simp only [hdir]
      exact .fails (.rootIsDirectory hroot hlookup hdir)
  | error cause =>
    -- a root that is not there has an error of its own
    cases cause with
    | notFound => exact .fails (.rootExists hroot hlookup)
    | _ => exact .fails (.rootAccess hroot hlookup nofun)

theorem makes_ofSources (files : Node) (a : Arguments) (stage : Stage) :
    Makes files a (Check.ofStage stage) (fun _ => True)
      ((Matcher.ofSources files stage (sourcesOf files a stage)).mapError .patterns) := by
  -- a source at fault comes before a pattern that is refused
  rcases Matcher.ofSources_cases files stage (sourcesOf files a stage) with
    ⟨e, heq, hfault⟩ | ⟨hnone, heq⟩
  · rw [heq]
    exact (Makes.fails (.sourcesReadable hfault)).append [.patternsCompile stage]
  · have hreadable : Passes files a (.sourcesReadable stage) := by
      intro e hfails
      cases hfails with
      | sourcesReadable hfault => exact hnone _ hfault
    rw [heq]
    cases hlines : Matcher.ofLines stage
        ((sourcesOf files a stage).flatMap (linesOrNone files)) with
    | error cause => exact .cons hreadable (.fails (.patternsCompile hlines))
    | ok m =>
      have hcompile : Passes files a (.patternsCompile stage) := by
        intro e hfails
        cases hfails with
        | patternsCompile hlines' => cases hlines.symm.trans hlines'
      exact .cons hreadable (.cons hcompile (.ok trivial))

theorem makes_compile (files : Node) (a : Arguments) :
    Makes files a (Check.ofStage .exclude ++ (Check.ofStage .fast ++ Check.ofStage .strict))
      (fun _ => True)
      ((Matchers.compile files (.withFiles (configOf files a).patterns)).mapError .patterns) := by
  rw [Matchers.compile, mapError_bind]
  refine (makes_ofSources files a .exclude).bind fun exclude _ => ?_
  rw [mapError_bind]
  refine (makes_ofSources files a .fast).bind fun fast _ => ?_
  rw [mapError_bind]
  exact (makes_ofSources files a .strict).map fun strict _ => trivial

/-! ## 4. The scan -/

/-- The scan that arguments ask for, once its root has been checked and its patterns compiled. -/
def requestOf (files : Node) (a : Arguments) (processors : Nat) : Except RunError ScanRequest := do
  let o ← (ScanOptions.load files a).mapError .options
  (checkRoot files o.directory).mapError .scan
  let m ← (Matchers.compile files (.withFiles o.patterns)).mapError .patterns
  return o.request m processors

/-- The outcome of a scan with arguments. -/
def loadAndScan (files : Node) (a : Arguments) (processors : Nat) : Except RunError ScanResult := do
  let o ← (ScanOptions.load files a).mapError .options
  o.scan files processors

/-- What a scan with arguments may come to, in whatever order the dispatcher and the workers take
their steps. -/
inductive Ends (files : Node) (a : Arguments) (processors : Nat) :
    Except RunError ScanResult → Prop
  | early {e : RunError} (hrequest : requestOf files a processors = .error e) :
      Ends files a processors (.error e)
  | scanned {r : ScanRequest} {s : Pool.State Path MatchEvent ScanError}
      (hrequest : requestOf files a processors = .ok r)
      (hreach : Pool.Reachable (r.candidates files) (r.work fun _ => files)
        (Pool.slots r.concurrency) s) (hover : s.isOver = true) :
      Ends files a processors
        ((ScanRequest.courseOf (r.candidates files) s).result.mapError .scan)

theorem ends_loadAndScan (files : Node) (a : Arguments) (processors : Nat) :
    Ends files a processors (loadAndScan files a processors) := by
  cases hload : ScanOptions.load files a with
  | error e =>
    rw [loadAndScan, hload]
    exact .early (by rw [requestOf, hload]; rfl)
  | ok o =>
    rw [loadAndScan, hload]
    show Ends files a processors (o.scan files processors)
    rw [ScanOptions.scan]
    cases hroot : checkRoot files o.directory with
    | error e => exact .early (by rw [requestOf, hload, ok_mapError_bind, hroot]; rfl)
    | ok _ =>
      cases hcompile : Matchers.compile files (.withFiles o.patterns) with
      | error e => exact .early (by rw [requestOf, hload, ok_mapError_bind, hroot, hcompile]; rfl)
      | ok m =>
        -- what is requested has passed all checks but the last one
        have hrequest : requestOf files a processors = .ok (o.request m processors) := by
          rw [requestOf, hload, ok_mapError_bind, hroot, hcompile]
          rfl
        have hrun : (o.request m processors).run files = _ := ScanRequest.runSeeing_eq hroot
        obtain ⟨hreach, hover⟩ := Pool.run_over ((o.request m processors).candidates files)
          ((o.request m processors).work fun _ => files) (o.request m processors).concurrency
        show Ends files a processors (((o.request m processors).run files).result.mapError .scan)
        rw [hrun]
        exact .scanned hrequest hreach hover

/-- What is known of the scan that arguments ask for. -/
def Requested (files : Node) (a : Arguments) (r : ScanRequest) : Prop :=
  root? files a = some r.root ∧ r.candidates files = candidatesOf files a r.root

theorem makes_requestOf (files : Node) (a : Arguments) (processors : Nat) :
    Makes files a (Check.order.take 11) (Requested files a) (requestOf files a processors) := by
  refine (makes_load files a).bind fun o ho => (makes_checkRoot ho.root).bind fun _ _ => ?_
  rw [ho.patterns]
  exact (makes_compile files a).map fun m _ => ⟨ho.root, ho.candidates m processors⟩

/-- The candidates are read last. -/
theorem reports_courseOf {r : ScanRequest} {s : Pool.State Path MatchEvent ScanError}
    (hrequest : Requested files a r)
    (hreach : Pool.Reachable (r.candidates files) (r.work fun _ => files)
      (Pool.slots r.concurrency) s) (hover : s.isOver = true) :
    Reports files a [.candidatesReadable]
      ((ScanRequest.courseOf (r.candidates files) s).result.mapError .scan) := by
  have hhonest := ScanRequest.honest_of_over hreach hover
  obtain ⟨hroot, hcandidates⟩ := hrequest
  cases hresult : (ScanRequest.courseOf (r.candidates files) s).result with
  | error e =>
    obtain ⟨file, hmem, cause, hread, rfl⟩ := hhonest.error e hresult
    exact .here (.candidatesReadable hroot (hcandidates ▸ hmem) hread)
  | ok result =>
    refine .later (fun e hfails => ?_) (.result result)
    -- the scan has read all candidates, so none of them can be at fault
    cases hfails with
    | candidatesReadable hroot' hmem hread =>
      cases hroot.symm.trans hroot'
      obtain ⟨content, hcontent⟩ := hhonest.ok_iff.mp ⟨result, hresult⟩ _ (hcandidates ▸ hmem)
      cases hread.symm.trans hcontent

theorem Ends.reports {x : Except RunError ScanResult} (h : Ends files a processors x) :
    Reports files a Check.order x := by
  have hmakes := makes_requestOf files a processors
  cases h with
  | early hrequest =>
    rw [hrequest] at hmakes
    cases hmakes with
    | stops hreports => exact hreports [.candidatesReadable]
  | scanned hrequest hreach hover =>
    rw [hrequest] at hmakes
    cases hmakes with
    | goes hknown hpass => exact hpass _ _ (reports_courseOf hknown hreach hover)

/-- A scan reports the first failure in the order of the checks, whatever else is wrong and in
whatever order candidates are read: what it reports is of the first check that fails, and it has a
result exactly if no check fails. -/
theorem first_failure_reported (files : Node) (a : Arguments) (processors : Nat) :
    Ends files a processors (loadAndScan files a processors) ∧
    ∀ x, Ends files a processors x →
      (∀ before check after, Check.order = before ++ check :: after →
        (∀ earlier ∈ before, Passes files a earlier) → ¬ Passes files a check →
        ∃ e, x = .error e ∧ Fails files a check e) ∧
      ((∃ r, x = .ok r) ↔ ∀ check ∈ Check.order, Passes files a check) :=
  ⟨ends_loadAndScan files a processors, fun _ hx =>
    ⟨fun _ _ _ => hx.reports.eq_error, hx.reports.ok_iff⟩⟩

/-- A configuration that gives a file for each kind of patterns. -/
def mixedConfig : List Char :=
  "patterns = \x7b exclude = \"x\", fast = \"x\", direct = \"d\", strict = \"s\" \x7d".toList

/-- Of the two sources of the strict stage the first one is no expression and the second one no
text. -/
def mixedTree : Node := .dir
  [("fasthog.toml", .file (Utf8.encode mixedConfig)), ("x", .file (Utf8.encode "x".toList)),
    ("d", .file (Utf8.encode "(".toList)), ("s", .file [0xff])]

/-- Arguments that give a directory only. -/
def mixedArguments : Arguments where
  directory := some ⟨"."⟩

theorem mixed_firstFault {e : PatternError} :
    FirstFault mixedTree [.file ⟨"d"⟩, .file ⟨"s"⟩] e ↔
      e = .encoding "s" (.invalid 1 0) := by
  -- the first source is a text, and the second one is none
  have hd : (Pattern.Source.file ⟨"d"⟩).lines mixedTree = .ok ["(".toList] := by decide +kernel
  have hs : (Pattern.Source.file ⟨"s"⟩).lines mixedTree =
      .error (.encoding "s" (.invalid 1 0)) := by decide +kernel
  rw [firstFault_cons, firstFault_cons, ← lines_eq_error_iff, ← lines_eq_error_iff, hd, hs]
  constructor
  · rintro (hfirst | ⟨-, hsecond | ⟨-, hnone⟩⟩)
    · cases hfirst
    · exact (Except.error.inj hsecond).symm
    · exact absurd hnone not_firstFault_nil
  · rintro rfl
    refine .inr ⟨fun e' hfault => ?_, .inl rfl⟩
    rw [← lines_eq_error_iff, hd] at hfault
    cases hfault

/-- All checks before those of the strict stage pass. -/
theorem mixed_passes : ∀ check ∈ Check.order.take 9, Passes mixedTree mixedArguments check := by
  have hroot : root? mixedTree mixedArguments = some ⟨"."⟩ := by decide +kernel
  have hoptions := (makes_load mixedTree mixedArguments).passes (by decide +kernel)
  have husable := (makes_checkRoot hroot).passes (by decide +kernel)
  have hexclude := (makes_ofSources mixedTree mixedArguments .exclude).passes (by decide +kernel)
  have hfast := (makes_ofSources mixedTree mixedArguments .fast).passes (by decide +kernel)
  have hsplit : Check.order.take 9 =
      [Check.configExists, .configReadable, .configParses, .directoryGiven] ++
        ([Check.rootUsable] ++ (Check.ofStage .exclude ++ Check.ofStage .fast)) := rfl
  rw [hsplit]
  exact List.forall_mem_append.mpr ⟨hoptions, List.forall_mem_append.mpr ⟨husable,
    List.forall_mem_append.mpr ⟨hexclude, hfast⟩⟩⟩

/-- The source that is no text is reported, although the one before it is no expression. -/
theorem first_failure_reported_strict :
    ¬ Passes mixedTree mixedArguments (.patternsCompile .strict) ∧
    loadAndScan mixedTree mixedArguments 1 =
      .error (.patterns (.encoding "s" (.invalid 1 0))) := by
  have hsources : sourcesOf mixedTree mixedArguments .strict = [.file ⟨"d"⟩, .file ⟨"s"⟩] := by
    decide +kernel
  have hunreadable : ¬ Passes mixedTree mixedArguments (.sourcesReadable .strict) :=
    fun h => h _ (.sourcesReadable (hsources ▸ mixed_firstFault.mpr rfl))
  -- the line of the source that can be read opens a group
  have hrefused : Matcher.ofLines .strict
      ((sourcesOf mixedTree mixedArguments .strict).flatMap (linesOrNone mixedTree)) =
        .error .unclosedGroup := by
    have hlines : [Pattern.Source.file ⟨"d"⟩, .file ⟨"s"⟩].flatMap (linesOrNone mixedTree) =
        ["(".toList] := by decide +kernel
    rw [hsources, hlines]
    rfl
  have huncompiled : ¬ Passes mixedTree mixedArguments (.patternsCompile .strict) :=
    fun h => h _ (.patternsCompile hrefused)
  obtain ⟨hends, hreports⟩ := first_failure_reported mixedTree mixedArguments 1
  obtain ⟨e, hx, hfails⟩ := (hreports _ hends).1 _ (.sourcesReadable .strict)
    [.patternsCompile .strict, .candidatesReadable] rfl mixed_passes hunreadable
  refine ⟨huncompiled, ?_⟩
  rw [hx]
  cases hfails with
  | sourcesReadable hfault =>
    rw [hsources] at hfault
    rw [mixed_firstFault.mp hfault]

end Command

end SecretScan
