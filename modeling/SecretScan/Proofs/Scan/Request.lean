import SecretScan.Proofs.Files.Walk
import SecretScan.Proofs.Pool.Outcome
import SecretScan.Proofs.Scan.Content
import SecretScan.Proofs.Tally
import SecretScan.Scan.Request

/-!
# A scan does not depend on its schedule

If all candidates can be read, every order in which the workers and the dispatcher take their steps
leads to the same candidates, the same announcements, the same matches up to their order, and the
same sorted matches (`ScanRequest.schedule_independent`).
-/

namespace SecretScan

/-- The matches in some files with some contents, by file and line. -/
def Matchers.matchesOf (m : Matchers) (contents : Path → Bytes) (files : List Path) : List Match :=
  files.flatMap fun file => (m.scan (contents file)).map (Hit.toMatch file)

/-- The places of these matches increase if the files are in order. -/
theorem Matchers.pairwise_matchesOf (m : Matchers) (contents : Path → Bytes) {files : List Path}
    (h : files.Pairwise fun p q => p.key < q.key) :
    (m.matchesOf contents files).Pairwise fun a b => a.place < b.place := by
  refine List.pairwise_flatMap.mpr ⟨fun file _ => ?_, h.imp fun {p q} hlt a ha b hb => ?_⟩
  · refine List.pairwise_map.mpr ((m.pairwise_scan _).imp fun {a b} hlt => ?_)
    exact Prod.Lex.toLex_lt_toLex.mpr (.inr ⟨rfl, hlt⟩)
  · obtain ⟨-, -, rfl⟩ := List.mem_map.mp ha
    obtain ⟨-, -, rfl⟩ := List.mem_map.mp hb
    exact Prod.Lex.toLex_lt_toLex.mpr (.inl hlt)

namespace MatchEvent

theorem told?_eq_some_iff {event : MatchEvent} {m : Match} :
    event.told? = some m ↔ event = told m := by
  cases event <;> simp [told?]

theorem recorded?_eq_some_iff {event : MatchEvent} {m : Match} :
    event.recorded? = some m ↔ event = recorded m := by
  cases event <;> simp [recorded?]

/-- What keeps one of the two events of each match keeps all matches. -/
theorem filterMap_ofMatches {f : MatchEvent → Option Match}
    (hf : ∀ m, [told m, recorded m].filterMap f = [m]) (ms : List Match) :
    (ofMatches ms).filterMap f = ms := by
  rw [ofMatches, List.filterMap_flatMap]
  simp only [hf, List.flatMap_singleton']

end MatchEvent

/-- The course of a scan of some candidates in which all matches are found. -/
structure ScanCourse.Covers (candidates : List Path) (expected : List Match) (c : ScanCourse) :
    Prop where
  progress : c.progress = candidates.zipIdx.map fun x => (x.1, x.2, candidates.length)
  result : ∃ r, c.result = .ok r ∧ r.candidates = candidates ∧ r.matches_.Perm expected ∧
    r.sortedMatches = expected ∧ c.found.Perm r.matches_

namespace ScanRequest

theorem work_of_read {r : ScanRequest} (files : Path → Node) {file : Path} {content : Bytes}
    (h : (files file).read (r.root.join file) = .ok content) :
    r.work files file =
      ⟨MatchEvent.ofMatches ((r.matchers.scan content).map (Hit.toMatch file)), none⟩ := by
  have hscan : scanFile r.matchers (files file) r.root file = .ok (r.matchers.scan content) := by
    unfold scanFile
    simp only [h]
  unfold work
  simp only [hscan]

theorem work_of_error {r : ScanRequest} (files : Path → Node) {file : Path} {cause : AccessError}
    (h : (files file).read (r.root.join file) = .error cause) :
    r.work files file = ⟨[], some (.fileAccess file cause)⟩ := by
  have hscan : scanFile r.matchers (files file) r.root file = .error (.fileAccess file cause) := by
    unfold scanFile
    simp only [h]
  unfold work
  simp only [hscan]

theorem runSeeing_eq {r : ScanRequest} {files : Node} {seen : Path → Node}
    (hroot : checkRoot files r.root = .ok ()) : r.runSeeing files seen =
      courseOf (r.candidates files) (Pool.run (r.candidates files) (r.work seen) r.concurrency) := by
  unfold runSeeing
  simp only [hroot]

/-- A result holds what has been recorded. -/
theorem courseOf_result_ok {candidates : List Path} {s : Pool.State Path MatchEvent ScanError}
    {result : ScanResult} (h : (courseOf candidates s).result = .ok result) :
    s.result = .ok () ∧ result.candidates = candidates ∧
      result.matches_ = (s.recorded.map Prod.snd).filterMap MatchEvent.recorded? := by
  cases hs : s.result with
  | ok =>
    simp only [courseOf, hs] at h
    cases h
    exact ⟨rfl, rfl, Tally.matches_ofMatches _⟩
  | error e =>
    simp only [courseOf, hs] at h
    cases h

theorem courseOf_result_error {candidates : List Path} {s : Pool.State Path MatchEvent ScanError}
    {e : ScanError} (h : (courseOf candidates s).result = .error e) : s.result = .error e := by
  cases hs : s.result with
  | ok =>
    simp only [courseOf, hs] at h
    cases h
  | error e' =>
    simp only [courseOf, hs] at h
    cases h
    rfl

/-- The caller is told of the matches in all files, and they are recorded, in some order each. -/
theorem matches_of_complete {r : ScanRequest} (files : Path → Node) {candidates : List Path}
    {contents : Path → Bytes} {s : Pool.State Path MatchEvent ScanError}
    (hread : ∀ file ∈ candidates, (files file).read (r.root.join file) = .ok (contents file))
    (h : Pool.Complete candidates (r.work files) s) :
    ((s.recorded.map Prod.snd).filterMap MatchEvent.told?).Perm
        (r.matchers.matchesOf contents candidates) ∧
      ((s.recorded.map Prod.snd).filterMap MatchEvent.recorded?).Perm
        (r.matchers.matchesOf contents candidates) := by
  -- a file that can be read has its matches for its work
  have hrecords : (candidates.flatMap fun file => (r.work files file).records) =
      candidates.flatMap fun file =>
        MatchEvent.ofMatches ((r.matchers.scan (contents file)).map (Hit.toMatch file)) :=
    List.flatMap_congr fun file hfile =>
      congrArg Pool.Work.records (work_of_read files (hread file hfile))
  have hevents := h.recorded
  rw [hrecords] at hevents
  have hkept : ∀ {f : MatchEvent → Option Match},
      (∀ m, [MatchEvent.told m, .recorded m].filterMap f = [m]) →
      ((s.recorded.map Prod.snd).filterMap f).Perm (r.matchers.matchesOf contents candidates) := by
    intro f hf
    have hfiltered := hevents.filterMap f
    simp only [List.filterMap_flatMap, MatchEvent.filterMap_ofMatches hf] at hfiltered
    exact hfiltered
  exact ⟨hkept fun _ => rfl, hkept fun _ => rfl⟩

/-- What a pool over files that can be read leaves behind when it is over. -/
theorem covers_of_complete {r : ScanRequest} (files : Path → Node) {candidates : List Path}
    {contents : Path → Bytes} {s : Pool.State Path MatchEvent ScanError}
    (hcandidates : candidates.Pairwise fun p q => p.key < q.key)
    (hread : ∀ file ∈ candidates, (files file).read (r.root.join file) = .ok (contents file))
    (h : Pool.Complete candidates (r.work files) s) :
    (courseOf candidates s).Covers candidates (r.matchers.matchesOf contents candidates) := by
  obtain ⟨htold, hrecorded⟩ := matches_of_complete files hread h
  refine ⟨?_, _, by rw [courseOf, h.result]; rfl, rfl, ?_, ?_, ?_⟩
  · show s.announced = _
    rw [h.announced, Pool.announcements, List.take_length]
  · rw [Tally.finish, Tally.matches_ofMatches]
    exact hrecorded
  · -- candidates are sorted and so are the lines of each, so there is one order only
    refine ScanResult.sortedMatches_eq ?_ (r.matchers.pairwise_matchesOf contents hcandidates)
    rw [Tally.finish, Tally.matches_ofMatches]
    exact hrecorded
  · rw [Tally.finish, Tally.matches_ofMatches]
    exact htold.trans hrecorded.symm

/-- What a scan of files that can be read leaves behind. -/
theorem run_covers {r : ScanRequest} {files : Node} {candidates : List Path}
    {contents : Path → Bytes} (hroot : checkRoot files r.root = .ok ())
    (hcandidates : r.candidates files = candidates)
    (hsorted : candidates.Pairwise fun p q => p.key < q.key)
    (hread : ∀ file ∈ candidates, files.read (r.root.join file) = .ok (contents file)) :
    (r.run files).Covers candidates (r.matchers.matchesOf contents candidates) := by
  subst hcandidates
  obtain ⟨hreach, hover⟩ :=
    Pool.run_over (r.candidates files) (r.work fun _ => files) r.concurrency
  have hcomplete := hreach.complete hover fun file hfile =>
    congrArg Pool.Work.failure (work_of_read (fun _ => files) (hread file hfile))
  rw [run, runSeeing_eq hroot]
  exact covers_of_complete (fun _ => files) hsorted hread hcomplete

/-- The outcome of a scan does not depend on the schedule.  No schedule is longer than the bound,
somebody can take a step until the scan is over, and then all matches of all candidates have been
found. -/
theorem schedule_independent (r : ScanRequest) {files : Node} {contents : Path → Bytes}
    (htree : files.WellFormed) (hroot : checkRoot files r.root = .ok ())
    (hread : ∀ file ∈ r.candidates files, files.read (r.root.join file) = .ok (contents file)) :
    (∀ schedule s, Pool.follow (r.candidates files) (r.work fun _ => files)
        (Pool.slots r.concurrency) schedule {} = some s →
      schedule.length ≤ Pool.bound (r.candidates files) (r.work fun _ => files) ∧
      (s.isOver = false → ∃ actor t, Pool.step? (r.candidates files) (r.work fun _ => files)
        (Pool.slots r.concurrency) actor s = some t) ∧
      (s.isOver = true → (courseOf (r.candidates files) s).Covers (r.candidates files)
        (r.matchers.matchesOf contents (r.candidates files)))) ∧
    (r.run files).Covers (r.candidates files)
      (r.matchers.matchesOf contents (r.candidates files)) := by
  have hcandidates : (r.candidates files).Pairwise fun p q => p.key < q.key := by
    unfold candidates
    exact Walker.pairwise_walk _ htree r.root
  -- no work fails, so every run that is over is complete
  have hok : ∀ file ∈ r.candidates files, (r.work (fun _ => files) file).failure = none := by
    intro file hfile
    exact congrArg Pool.Work.failure (work_of_read (fun _ => files) (hread file hfile))
  have hcovers : ∀ s, Pool.Reachable (r.candidates files) (r.work fun _ => files)
      (Pool.slots r.concurrency) s → s.isOver = true →
      (courseOf (r.candidates files) s).Covers (r.candidates files)
        (r.matchers.matchesOf contents (r.candidates files)) :=
    fun s hs hover => covers_of_complete (fun _ => files) hcandidates hread (hs.complete hover hok)
  refine ⟨fun schedule s hs => ?_, ?_⟩
  · have hreach := Pool.reachable_of_follow hs
    exact ⟨Pool.length_le_bound hs, hreach.progress (Pool.slots_pos _), hcovers s hreach⟩
  · obtain ⟨hreach, hover⟩ :=
      Pool.run_over (r.candidates files) (r.work fun _ => files) r.concurrency
    -- the scan takes the first step that can be taken, which is one schedule of many
    have hrun : r.run files = courseOf (r.candidates files)
        (Pool.run (r.candidates files) (r.work fun _ => files) r.concurrency) := by
      unfold run runSeeing
      simp only [hroot]
    rw [hrun]
    exact hcovers _ hreach hover

/-- The entries of a directory with two files that a scan for `.env` finds, and a link to one. -/
def pairEntries : List (String × Node) :=
  [("a", .dir [("c.env", .file (Utf8.encode "key = secret".toList))]),
    ("b.env", .file (Utf8.encode "key=secret\n".toList)), ("d.env", .link "b.env")]

/-- A scan for the letters `key`, two files at a time. -/
def pairRequest : ScanRequest where
  root := ⟨"."⟩
  matchers := ⟨⟨.fast, some (.leaf (CharSet.single 'k')), 1⟩,
    ⟨.strict, some (.seq (.leaf (CharSet.single 'k'))
      (.seq (.leaf (CharSet.single 'e')) (.leaf (CharSet.single 'y')))), 1⟩,
    ⟨.exclude, none, 0⟩⟩
  extensions := [".env"]
  excluded := []
  concurrency := 2

theorem pairRequest_candidates :
    pairRequest.candidates (.dir pairEntries) = [⟨"a/c.env"⟩, ⟨"b.env"⟩] := by
  have hpaths : ((entryFiles (.dir pairEntries) [] ⟨"."⟩ pairEntries).map Path.ofNames).filter
      (Walker.hasExtension · [".env"]) = [⟨"a/c.env"⟩, ⟨"b.env"⟩] := by decide +kernel
  show List.mergeSort (((entryFiles (.dir pairEntries) [] ⟨"."⟩ pairEntries).map Path.ofNames).filter
    (Walker.hasExtension · [".env"])) Path.le = _
  rw [hpaths]
  exact List.mergeSort_of_pairwise (by decide)

/-- Whichever file is read first, the matches are those of both files. -/
theorem schedule_independent_pair :
    pairRequest.candidates (.dir pairEntries) = [⟨"a/c.env"⟩, ⟨"b.env"⟩] ∧
    (∀ schedule s, Pool.follow [⟨"a/c.env"⟩, ⟨"b.env"⟩]
        (pairRequest.work fun _ => .dir pairEntries) 2 schedule {} = some s → s.isOver = true →
      (courseOf [⟨"a/c.env"⟩, ⟨"b.env"⟩] s).Covers [⟨"a/c.env"⟩, ⟨"b.env"⟩]
        [⟨⟨"a/c.env"⟩, 1, "key = secret", "key"⟩, ⟨⟨"b.env"⟩, 1, "key=secret", "key"⟩]) ∧
    (pairRequest.run (.dir pairEntries)).Covers [⟨"a/c.env"⟩, ⟨"b.env"⟩]
      [⟨⟨"a/c.env"⟩, 1, "key = secret", "key"⟩, ⟨⟨"b.env"⟩, 1, "key=secret", "key"⟩] := by
  have hcandidates := pairRequest_candidates
  have htree : (Node.dir pairEntries).WellFormed := by
    refine .dir (by decide) (by decide) (List.forall_mem_cons.mpr ⟨?_, List.forall_mem_cons.mpr
      ⟨.file _, List.forall_mem_singleton.mpr (.link _)⟩⟩)
    exact .dir (by decide) (by decide) (List.forall_mem_singleton.mpr (.file _))
  -- the second file has the contents that the first one has not
  have hread : ∀ file ∈ pairRequest.candidates (.dir pairEntries),
      (Node.dir pairEntries).read (pairRequest.root.join file) =
        .ok (if file = ⟨"b.env"⟩ then Utf8.encode "key=secret\n".toList
          else Utf8.encode "key = secret".toList) := by
    rw [hcandidates]
    exact List.forall_mem_cons.mpr ⟨rfl, List.forall_mem_singleton.mpr rfl⟩
  have hmatches : pairRequest.matchers.matchesOf (fun file =>
      if file = ⟨"b.env"⟩ then Utf8.encode "key=secret\n".toList
        else Utf8.encode "key = secret".toList) [⟨"a/c.env"⟩, ⟨"b.env"⟩] =
      [⟨⟨"a/c.env"⟩, 1, "key = secret", "key"⟩, ⟨⟨"b.env"⟩, 1, "key=secret", "key"⟩] := by
    decide +kernel
  have h := schedule_independent pairRequest htree rfl hread
  rw [hcandidates, hmatches] at h
  exact ⟨hcandidates, fun schedule s hs => (h.1 schedule s hs).2.2, h.2⟩

end ScanRequest

end SecretScan
