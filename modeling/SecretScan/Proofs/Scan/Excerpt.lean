import SecretScan.Proofs.Scan.Request
import SecretScan.Proofs.Scan.Screen

/-!
# Secrets in their lines

A match shows the line of a secret without the blanks at its ends.  The secret is found in the line
with its blanks, so it stands in the line that is shown, at its own place, exactly if it is clear of
them (`ScanRequest.matched_in_line`).  The built-in secrets always are.
-/

namespace SecretScan

/-! ## 1. What is found in a line -/

namespace Matchers

variable {m : Matchers}

theorem of_report_eq_some {line secret : List Char} (h : m.report line = some secret) :
    secret ≠ [] ∧ m.strict.find line = some secret := by
  unfold report at h
  split at h
  next =>
    split at h
    next c found hfind =>
      split at h
      · cases h
      · cases h
        exact ⟨List.cons_ne_nil c found, hfind⟩
    next => cases h
  next => cases h

theorem of_mem_scan {content : Bytes} {hit : Hit} (h : hit ∈ m.scan content) :
    hit.secret ≠ [] ∧ m.strict.find hit.line = some hit.secret :=
  of_report_eq_some (report_of_mem_scan h)

/-- What the strict stage finds neither begins nor ends with a blank. -/
def SolidEnds (m : Matchers) : Prop :=
  ∀ line found, m.strict.find line = some found → found ≠ [] →
    (∃ c, found.head? = some c ∧ isBlank c = false) ∧
      ∃ c, found.getLast? = some c ∧ isBlank c = false

theorem solidEnds_of_endsAvoid (h : m.strict.regex.all (Regex.endsAvoid Blank.points) = true) :
    m.SolidEnds := by
  intro line found hfind hne
  obtain ⟨r, hr, hfound⟩ := Matcher.find_eq_some_iff.mp hfind
  rw [hr, Option.all_some] at h
  obtain ⟨⟨c, hc, hcnot⟩, d, hd, hdnot⟩ := Regex.ends_of_find h hfound hne
  have hsolid : ∀ {e : Char}, e.toNat ∉ Blank.points → isBlank e = false := fun he =>
    Bool.eq_false_iff.mpr fun hblank => he (Blank.mem_points hblank)
  exact ⟨⟨c, hc, hsolid hcnot⟩, d, hd, hsolid hdnot⟩

end Matchers

/-! ## 2. Matches and their lines -/

/-- The caller is told of a match, or it belongs to the result. -/
def ScanCourse.Shows (c : ScanCourse) (m : Match) : Prop :=
  m ∈ c.found ∨ ∃ result, c.result = .ok result ∧ m ∈ result.matches_

/-- What a match tells of the file that it comes from. -/
structure ScanRequest.Excerpt (r : ScanRequest) (seen : Path → Node) (m : Match) : Prop where
  nonempty : m.matched ≠ ""
  /-- The secret is found in a line, which is shown without the blanks at its ends; wherever the
  secret stands in the line, the line as it is shown keeps it there exactly if it is clear of these
  blanks. -/
  source : ∃ content line, (seen m.file).read (r.root.join m.file) = .ok content ∧
    ⟨m.line, line, m.matched.toList⟩ ∈ r.matchers.scan content ∧
    m.lineText = Blank.trim (String.ofList line) ∧
    (∃ before after, line = before ++ m.matched.toList ++ after) ∧
    ∀ before after, line = before ++ m.matched.toList ++ after →
      ((∃ left right, m.lineText.toList = left ++ m.matched.toList ++ right ∧
          left <:+ before ∧ right <+: after) ↔
        Blank.ClearOfStart before m.matched.toList ∧ Blank.ClearOfEnd m.matched.toList after)
  inside : r.matchers.SolidEnds → m.matched.toList <:+: m.lineText.toList

namespace ScanRequest

variable {r : ScanRequest} {seen : Path → Node}

theorem excerpt_of_mem_scan {file : Path} {content : Bytes} {hit : Hit}
    (hread : (seen file).read (r.root.join file) = .ok content)
    (hhit : hit ∈ r.matchers.scan content) : r.Excerpt seen (hit.toMatch file) := by
  obtain ⟨hne, hfind⟩ := Matchers.of_mem_scan hhit
  have hmatched : (hit.toMatch file).matched.toList = hit.secret := String.toList_ofList
  have htext : (hit.toMatch file).lineText.toList = Blank.trimEnd (Blank.trimStart hit.line) := by
    simp only [Hit.toMatch, Blank.trim, String.toList_ofList]
  obtain ⟨re, -, hfound⟩ := Matcher.find_eq_some_iff.mp hfind
  obtain ⟨before, -, q, hline, -⟩ := Regex.exists_of_find_eq_some hfound
  have hkeeps : ∀ before after, hit.line = before ++ hit.secret ++ after →
      ((∃ left right, Blank.trimEnd (Blank.trimStart hit.line) = left ++ hit.secret ++ right ∧
          left <:+ before ∧ right <+: after) ↔
        Blank.ClearOfStart before hit.secret ∧ Blank.ClearOfEnd hit.secret after) := by
    intro before after hline
    rw [hline]
    exact Blank.trimmed_keeps_iff hne
  refine ⟨fun hempty => ?_, ⟨content, hit.line, hread, ?_, rfl, ?_⟩, fun hsolid => ?_⟩
  · rw [hempty] at hmatched
    exact hne hmatched.symm
  · rw [hmatched]
    exact hhit
  · rw [hmatched, htext]
    exact ⟨⟨before, q.rest, hline⟩, hkeeps⟩
  · -- a secret with solid ends is clear of the blanks wherever it stands
    rw [hmatched, htext]
    obtain ⟨⟨c, hc, hcsolid⟩, d, hd, hdsolid⟩ := hsolid _ _ hfind hne
    obtain ⟨left, right, htrim, -⟩ := (hkeeps before q.rest hline).mpr
      ⟨.of_head? hc hcsolid, .of_getLast? hd hdsolid⟩
    exact ⟨left, right, htrim.symm⟩

/-- What a worker tells and records is a match in a file. -/
theorem excerpt_of_mem_work {file : Path} {m : Match}
    (h : .told m ∈ (r.work seen file).records ∨ .recorded m ∈ (r.work seen file).records) :
    r.Excerpt seen m := by
  cases hread : (seen file).read (r.root.join file) with
  | error cause =>
    rw [work_of_error seen hread] at h
    simp at h
  | ok content =>
    rw [work_of_read seen hread] at h
    obtain ⟨hit, hhit, rfl⟩ : ∃ hit ∈ r.matchers.scan content, hit.toMatch file = m := by
      simpa [MatchEvent.ofMatches, eq_comm] using h
    exact excerpt_of_mem_scan hread hhit

/-! ## 3. Matches of a scan -/

theorem excerpt_of_shows {candidates : List Path} {s : Pool.State Path MatchEvent ScanError}
    {slots : Nat} (hreach : Pool.Reachable candidates (r.work seen) slots s) {m : Match}
    (h : (courseOf candidates s).Shows m) : r.Excerpt seen m := by
  -- what is told and what is returned are the two kinds of events of the pool
  obtain ⟨x, hx, hm⟩ : ∃ x ∈ s.recorded, x.2 = .told m ∨ x.2 = .recorded m := by
    rcases h with hfound | ⟨result, hresult, hmem⟩
    · obtain ⟨event, hevent, htold⟩ := List.mem_filterMap.mp hfound
      obtain ⟨x, hx, rfl⟩ := List.mem_map.mp hevent
      exact ⟨x, hx, .inl (MatchEvent.told?_eq_some_iff.mp htold)⟩
    · rw [(courseOf_result_ok hresult).2.2] at hmem
      obtain ⟨event, hevent, hrecorded⟩ := List.mem_filterMap.mp hmem
      obtain ⟨x, hx, rfl⟩ := List.mem_map.mp hevent
      exact ⟨x, hx, .inr (MatchEvent.recorded?_eq_some_iff.mp hrecorded)⟩
  obtain ⟨file, -, hrecords⟩ := hreach.mem_records hx
  exact excerpt_of_mem_work (hm.imp (fun h => h ▸ hrecords) fun h => h ▸ hrecords)

/-- Every match that a scan tells of or returns, in any order of steps and also if files change while
the scan is running, has a secret that is found in its line, and the secret stands in the line as it
is shown, at its own place, exactly if it is clear of the blanks at the ends of the line.  So it is a
part of the line that is shown if what the strict stage finds neither begins nor ends with a blank,
as is the case for the built-in stages. -/
theorem matched_in_line (r : ScanRequest) (files : Node) (seen : Path → Node) :
    (∃ m, Matchers.builtIn = .ok m ∧ m.SolidEnds) ∧
    (∀ s, Pool.Reachable (r.candidates files) (r.work seen) (Pool.slots r.concurrency) s →
      ∀ m, (courseOf (r.candidates files) s).Shows m → r.Excerpt seen m) ∧
    ∀ m, (r.runSeeing files seen).Shows m → r.Excerpt seen m := by
  refine ⟨?_, fun s hreach m => excerpt_of_shows hreach, fun m hm => ?_⟩
  · obtain ⟨m, hm, -, hends⟩ := Matchers.exists_builtIn
    exact ⟨m, hm, Matchers.solidEnds_of_endsAvoid hends⟩
  · unfold runSeeing at hm
    split at hm
    next =>
      -- a root that is refused shows nothing
      rcases hm with hfound | ⟨result, hresult, -⟩
      · cases hfound
      · cases hresult
    next =>
      -- the scan itself is one of the orders of steps
      obtain ⟨hreach, -⟩ := Pool.run_over (r.candidates files) (r.work seen) r.concurrency
      exact excerpt_of_shows hreach hm

/-- The content of a file whose only line begins with a blank. -/
def indentedLine : Bytes := Utf8.encode " token abc\n".toList

/-- A directory with this file. -/
def indented : Node := .dir [("a.py", .file indentedLine)]

/-- A scan of this directory. -/
def indentedRequest (m : Matchers) : ScanRequest := ⟨⟨"."⟩, m, [".py"], [], 1⟩

theorem indentedRequest_candidates (m : Matchers) :
    (indentedRequest m).candidates indented = [⟨"a.py"⟩] := by
  have hpaths : ((entryFiles indented [] ⟨"."⟩ [("a.py", .file indentedLine)]).map
      Path.ofNames).filter (Walker.hasExtension · [".py"]) = [⟨"a.py"⟩] := by decide +kernel
  show Walker.walk ⟨[".py"], []⟩ (.dir [("a.py", .file indentedLine)]) ⟨"."⟩ = _
  rw [Walker.walk, if_neg (by decide)]
  show List.mergeSort (((entryFiles indented [] ⟨"."⟩ [("a.py", .file indentedLine)]).map
    Path.ofNames).filter (Walker.hasExtension · [".py"])) Path.le = _
  rw [hpaths]
  exact List.mergeSort_singleton _

/-- The scan tells of the hits in the line and returns them. -/
theorem run_indented (m : Matchers) : ∃ result,
    ((indentedRequest m).run indented).result = .ok result ∧
    ((indentedRequest m).run indented).found.Perm
      ((m.scan indentedLine).map (Hit.toMatch ⟨"a.py"⟩)) ∧
    result.matches_.Perm ((m.scan indentedLine).map (Hit.toMatch ⟨"a.py"⟩)) := by
  have hroot : checkRoot indented (indentedRequest m).root = .ok () := by
    show checkRoot indented ⟨"."⟩ = .ok ()
    decide +kernel
  have hread : ∀ file ∈ [⟨"a.py"⟩],
      indented.read ((indentedRequest m).root.join file) = .ok indentedLine := by
    have hfile : indented.read (Path.join ⟨"."⟩ ⟨"a.py"⟩) = .ok indentedLine := by decide +kernel
    exact List.forall_mem_singleton.mpr hfile
  -- the only candidate is the file with the indented line
  have hcovers := run_covers hroot (indentedRequest_candidates m) (List.pairwise_singleton _ _) hread
  rw [Matchers.matchesOf, List.flatMap_singleton] at hcovers
  obtain ⟨result, hresult, -, hmatches, -, hfound⟩ := hcovers.result
  exact ⟨result, hresult, hfound.trans hmatches, hmatches⟩

/-- A secret that keeps its distance from the ends of the line is shown where it is found. -/
theorem matched_in_line_indented :
    ∃ m, Matchers.ofLines ["token".toList] ["token".toList] [] = .ok m ∧ m.SolidEnds ∧
      ((indentedRequest m).run indented).Shows ⟨⟨"a.py"⟩, 1, "token abc", "token"⟩ ∧
      (indentedRequest m).Excerpt (fun _ => indented) ⟨⟨"a.py"⟩, 1, "token abc", "token"⟩ ∧
      "token".toList <:+: "token abc".toList := by
  obtain ⟨m, hm, hscan, hends⟩ : ∃ m,
      Matchers.ofLines ["token".toList] ["token".toList] [] = .ok m ∧
      m.scan indentedLine = [⟨1, " token abc".toList, "token".toList⟩] ∧
      m.strict.regex.all (Regex.endsAvoid Blank.points) = true :=
    ⟨_, rfl, by decide +kernel, by decide +kernel⟩
  have hsolid := Matchers.solidEnds_of_endsAvoid hends
  obtain ⟨result, -, hfound, -⟩ := run_indented m
  have hshows : ((indentedRequest m).run indented).Shows
      ⟨⟨"a.py"⟩, 1, "token abc", "token"⟩ := by
    refine .inl (hfound.mem_iff.mpr ?_)
    rw [hscan]
    exact List.mem_singleton.mpr (by decide +kernel)
  have hexcerpt := (matched_in_line (indentedRequest m) indented fun _ => indented).2.2 _ hshows
  exact ⟨m, hm, hsolid, hshows, hexcerpt, hexcerpt.inside hsolid⟩

/-- An expression that matches the whole line takes the blank with it, which the line that is shown
does not have. -/
theorem matched_not_in_line :
    ∃ m, Matchers.ofLines ["token".toList] [".*".toList] [] = .ok m ∧
      ∃ found ∈ ((indentedRequest m).run indented).found,
        (∃ result, ((indentedRequest m).run indented).result = .ok result ∧
          found ∈ result.matches_) ∧
        ¬ found.matched.toList <:+: found.lineText.toList := by
  -- the file holds one line, with a blank in front of it
  obtain ⟨m, hm, hscan⟩ : ∃ m, Matchers.ofLines ["token".toList] [".*".toList] [] = .ok m ∧
      m.scan indentedLine = [⟨1, " token abc".toList, " token abc".toList⟩] :=
    ⟨_, rfl, by decide +kernel⟩
  obtain ⟨result, hresult, hfound, hmatches⟩ := run_indented m
  have hhit : (⟨⟨"a.py"⟩, 1, "token abc", " token abc"⟩ : Match) ∈
      (m.scan indentedLine).map (Hit.toMatch ⟨"a.py"⟩) := by
    rw [hscan]
    exact List.mem_singleton.mpr (by decide +kernel)
  exact ⟨m, hm, _, hfound.mem_iff.mpr hhit, ⟨result, hresult, hmatches.mem_iff.mpr hhit⟩,
    by decide +kernel⟩

end ScanRequest

end SecretScan
