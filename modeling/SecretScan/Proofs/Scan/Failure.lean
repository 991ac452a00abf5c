import SecretScan.Proofs.Pool.Failure
import SecretScan.Proofs.Scan.Request

/-!
# A scan hides no failure

A scan has a result exactly if all candidates could be read, and the result then holds all matches in
all of them.  Otherwise its error names a candidate that could not be read, in every order of steps
and also if files change while the scan is running (`ScanRequest.no_failure_hidden`).
-/

namespace SecretScan

/-- What the outcome of a scan tells of its candidates.  `seen` are the files that are there when a
candidate is read. -/
structure ScanCourse.Honest (r : ScanRequest) (candidates : List Path) (seen : Path → Node)
    (c : ScanCourse) : Prop where
  ok_iff : (∃ result, c.result = .ok result) ↔
    ∀ file ∈ candidates, ∃ content, (seen file).read (r.root.join file) = .ok content
  complete : ∀ result, c.result = .ok result → result.candidates = candidates ∧
    ∀ contents : Path → Bytes,
      (∀ file ∈ candidates, (seen file).read (r.root.join file) = .ok (contents file)) →
      result.matches_.Perm (r.matchers.matchesOf contents candidates)
  error : ∀ e, c.result = .error e → ∃ file ∈ candidates, ∃ cause,
    (seen file).read (r.root.join file) = .error cause ∧ e = .fileAccess file cause

namespace ScanRequest

variable {r : ScanRequest} {candidates : List Path} {seen : Path → Node}
  {s : Pool.State Path MatchEvent ScanError}

/-- The work on a file succeeds exactly if the file can be read. -/
theorem failure_eq_none_iff {file : Path} :
    (r.work seen file).failure = none ↔
      ∃ content, (seen file).read (r.root.join file) = .ok content := by
  cases hread : (seen file).read (r.root.join file) with
  | ok content =>
    rw [work_of_read seen hread]
    exact ⟨fun _ => ⟨content, rfl⟩, fun _ => rfl⟩
  | error cause =>
    rw [work_of_error seen hread]
    exact ⟨fun h => (nomatch h), fun ⟨_, h⟩ => (nomatch h)⟩

/-- The work on a file fails only with the error that names the file and the cause. -/
theorem of_failure_eq_some {file : Path} {e : ScanError} (h : (r.work seen file).failure = some e) :
    ∃ cause, (seen file).read (r.root.join file) = .error cause ∧ e = .fileAccess file cause := by
  cases hread : (seen file).read (r.root.join file) with
  | ok content =>
    rw [work_of_read seen hread] at h
    cases h
  | error cause =>
    rw [work_of_error seen hread] at h
    cases h
    exact ⟨cause, rfl, rfl⟩

/-- A pool over the candidates of a scan that is over. -/
theorem honest_of_over (hreach : Pool.Reachable candidates (r.work seen)
    (Pool.slots r.concurrency) s) (hover : s.isOver = true) :
    (courseOf candidates s).Honest r candidates seen := by
  have herror := hreach.error_eq_none_iff hover
  -- the work on a file fails exactly if the file cannot be read
  have hreadable : (∀ file ∈ candidates, (r.work seen file).failure = none) ↔
      ∀ file ∈ candidates, ∃ content, (seen file).read (r.root.join file) = .ok content :=
    forall₂_congr fun _ _ => failure_eq_none_iff
  refine ⟨⟨fun ⟨result, hresult⟩ => ?_, fun hread => ?_⟩, fun result hresult => ?_,
    fun e he => ?_⟩
  · exact hreadable.mp
      (herror.mp (Pool.result_eq_ok_iff.mp (courseOf_result_ok hresult).1)).2
  · have hok := (hreach.complete hover (hreadable.mpr hread)).result
    exact ⟨_, by rw [courseOf, hok]; rfl⟩
  · obtain ⟨hok, hcandidates, hmatches⟩ := courseOf_result_ok hresult
    have hcomplete := hreach.complete hover (herror.mp (Pool.result_eq_ok_iff.mp hok)).2
    refine ⟨hcandidates, fun contents hread => ?_⟩
    rw [hmatches]
    exact (matches_of_complete seen hread hcomplete).2
  · -- the error that was stored is that of some item
    obtain ⟨file, hmem, hfailure⟩ :=
      hreach.blamed.stored (Pool.result_eq_error_iff.mp (courseOf_result_error he))
    exact ⟨file, hmem, of_failure_eq_some hfailure⟩

/-- Neither a pool nor a scan hides a failure or invents one.  When a run of a pool is over, in any
order of steps, the work on every item that was handed to a worker has been completed once; the run
succeeds exactly if all items were handed to workers and none failed, and otherwise its error is the
one that was stored first.  So a scan below a directory has a result, which is then complete, exactly
if all candidates could be read to their end, and otherwise an error that names one that could not. -/
theorem no_failure_hidden :
    (∀ {ι α ε : Type} (items : List ι) (work : ι → Pool.Work α ε) (concurrency : Nat)
      (h : List (Pool.Event ε)) (s : Pool.State ι α ε),
      Pool.Trace items work (Pool.slots concurrency) h s → s.isOver = true →
        Pool.Verdict items work h s) ∧
    ∀ (r : ScanRequest) (files : Node) (seen : Path → Node), checkRoot files r.root = .ok () →
      (∀ h s, Pool.Trace (r.candidates files) (r.work seen) (Pool.slots r.concurrency) h s →
        s.isOver = true → (courseOf (r.candidates files) s).Honest r (r.candidates files) seen) ∧
      (r.runSeeing files seen).Honest r (r.candidates files) seen := by
  refine ⟨fun items work concurrency h s htrace hover => htrace.verdict hover,
    fun r files seen hroot => ⟨fun h s htrace hover => honest_of_over htrace.reachable hover, ?_⟩⟩
  obtain ⟨hreach, hover⟩ := Pool.run_over (r.candidates files) (r.work seen) r.concurrency
  rw [runSeeing_eq hroot]
  exact honest_of_over hreach hover

/-- The files of a directory of which `b.env` is gone when it is to be read. -/
def pairWithout (file : Path) : Node :=
  if file = ⟨"b.env"⟩ then (Node.dir pairEntries).remove ["b.env"] else .dir pairEntries

/-- Whoever is faster, the scan fails with the file that is gone. -/
theorem no_failure_hidden_gone :
    (∃ h s, Pool.Trace [⟨"a/c.env"⟩, ⟨"b.env"⟩] (pairRequest.work pairWithout) (Pool.slots 2) h s ∧
      s.isOver = true ∧
      Pool.Verdict [⟨"a/c.env"⟩, ⟨"b.env"⟩] (pairRequest.work pairWithout) h s) ∧
    checkRoot (.dir pairEntries) pairRequest.root = .ok () ∧
    (pairRequest.runSeeing (.dir pairEntries) pairWithout).result =
      .error (.fileAccess ⟨"b.env"⟩ .notFound) := by
  obtain ⟨hreach, hover⟩ := Pool.run_over [⟨"a/c.env"⟩, ⟨"b.env"⟩] (pairRequest.work pairWithout) 2
  obtain ⟨h, htrace⟩ := hreach.trace
  have hroot : checkRoot (.dir pairEntries) pairRequest.root = .ok () := rfl
  refine ⟨⟨h, _, htrace, hover, no_failure_hidden.1 _ _ 2 h _ htrace hover⟩, hroot, ?_⟩
  have hhonest := (no_failure_hidden.2 pairRequest (.dir pairEntries) pairWithout hroot).2
  rw [pairRequest_candidates] at hhonest
  -- of the two files only the second one is gone, so only its error can be returned
  have hkept : (pairWithout ⟨"a/c.env"⟩).read (pairRequest.root.join ⟨"a/c.env"⟩) =
      .ok (Utf8.encode "key = secret".toList) := rfl
  have hgone : (pairWithout ⟨"b.env"⟩).read (pairRequest.root.join ⟨"b.env"⟩) =
      .error .notFound := rfl
  cases hresult : (pairRequest.runSeeing (.dir pairEntries) pairWithout).result with
  | ok result =>
    obtain ⟨content, hread⟩ := hhonest.ok_iff.mp ⟨result, hresult⟩ ⟨"b.env"⟩ (by simp)
    rw [hgone] at hread
    cases hread
  | error e =>
    obtain ⟨file, hfile, cause, hcause, rfl⟩ := hhonest.error e hresult
    obtain rfl | rfl : file = ⟨"a/c.env"⟩ ∨ file = ⟨"b.env"⟩ := by simpa using hfile
    · rw [hkept] at hcause
      cases hcause
    · rw [hgone] at hcause
      cases hcause
      rfl

end ScanRequest

end SecretScan
