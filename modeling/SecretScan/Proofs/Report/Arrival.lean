import Mathlib
import SecretScan.Proofs.Tally.Ranking
import SecretScan.Report.Json

/-!
# Reports and the order of matches

Workers record matches in no particular order, and the counts are listed in no particular order
either.  A report sorts both.  If no two matches have the same place and each path has one spelling,
nothing in a report tells the order in which the matches arrived (`Report.arrival_independent`).
-/

namespace SecretScan

/-- A result for matches that were recorded in this order.  Its counts may be listed in any order. -/
structure ScanResult.Arrived (ms : List Match) (candidates : List Path) (r : ScanResult) :
    Prop where
  matches_ : r.matches_ = ms
  counts : r.counts.Perm (Tally.ofMatches ms).counts
  candidates : r.candidates = candidates

/-- Two results with the same views: what is sorted is the same, and so are the totals. -/
structure ScanResult.SameViews (r r' : ScanResult) : Prop where
  sortedMatches : r.sortedMatches = r'.sortedMatches
  topFiles : ∀ n, r.topFiles n = r'.topFiles n
  totalMatches : r.totalMatches = r'.totalMatches
  filesWithMatches : r.filesWithMatches = r'.filesWithMatches
  filesScanned : r.filesScanned = r'.filesScanned

/-- A sort need not be stable for this: to sort in another way amounts to listing the counts in
another order first. -/
theorem ScanResult.Arrived.sameViews {ms ms' : List Match} {candidates : List Path}
    {r r' : ScanResult} (h : r.Arrived ms candidates) (h' : r'.Arrived ms' candidates)
    (hperm : ms.Perm ms')
    (hspelled : ∀ a ∈ ms, ∀ b ∈ ms, a.file.same b.file → a.file = b.file)
    (hplaces : (ms.map fun m => (m.file, m.line)).Nodup) : r.SameViews r' := by
  have hagrees := Tally.agrees_ofMatches ms
  have hcounts : r.counts.Perm r'.counts := by
    have hof : (Tally.ofMatches ms).counts.Perm (Tally.ofMatches ms').counts :=
      hagrees.counts_perm (Tally.agrees_ofMatches ms')
        (by rwa [Tally.matches_ofMatches, Tally.matches_ofMatches])
        (by rwa [Tally.matches_ofMatches])
    exact (h.counts.trans hof).trans h'.counts.symm
  have hmatches : r.matches_.Perm r'.matches_ := by rw [h.matches_, h'.matches_]; exact hperm
  -- places differ also where paths are compared by their parts
  have hdistinct : (r.matches_.map Match.place).Nodup := by
    rw [h.matches_]
    refine List.Nodup.map_on (fun a ha b hb hab => ?_) hplaces.of_map
    have hkey : a.file.key = b.file.key ∧ a.line = b.line := Prod.ext_iff.mp (toLex.injective hab)
    have hfile := hspelled a ha b hb (Path.same_iff.mpr hkey.1)
    exact List.inj_on_of_nodup_map hplaces ha hb (Prod.ext hfile hkey.2)
  refine ⟨?_, fun n => ?_, hmatches.length_eq, hcounts.length_eq, ?_⟩
  · exact mergeSort_eq_of_perm (f := Match.place) (fun _ _ => comesBefore_iff) hmatches hdistinct
  · refine topFiles_eq_of_perm hcounts ?_ n
    exact (h.counts.map _).nodup_iff.mpr hagrees.distinct
  · rw [filesScanned, filesScanned, h.candidates, h'.candidates]

namespace Report

variable {r r' : ScanResult}

theorem matchLines_congr (h : r.SameViews r') (colour : Bool) :
    matchLines colour r = matchLines colour r' := by
  rw [matchLines, h.sortedMatches, matchLines]

theorem text_congr (h : r.SameViews r') (colour : Bool) (lines : List (List Char))
    (time : ScanTime) : text colour r lines time = text colour r' lines time := by
  have htable : table colour r = table colour r' := by rw [table, h.topFiles, table]
  have hsummary : summary r time = summary r' time := by
    rw [summary, h.totalMatches, h.filesWithMatches, h.filesScanned, summary]
  rw [text, h.filesScanned, htable, hsummary, text]

theorem json_congr (h : r.SameViews r') (directory : Path) (extensions : List String)
    (time : ScanTime) : json directory extensions r time = json directory extensions r' time := by
  have hvalue : value directory extensions r time = value directory extensions r' time := by
    rw [value, h.sortedMatches, h.totalMatches, h.filesWithMatches, h.filesScanned, h.topFiles,
      value]
  rw [json, hvalue, json]

/-- The lines for the matches, the report for readers, the content of the output file and the
document for programs do not depend on the order in which matches arrive, nor on the order in which
the counts are listed. -/
theorem arrival_independent {ms ms' : List Match} {candidates : List Path} (hperm : ms.Perm ms')
    (hspelled : ∀ a ∈ ms, ∀ b ∈ ms, a.file.same b.file → a.file = b.file)
    (hplaces : (ms.map fun m => (m.file, m.line)).Nodup)
    (h : r.Arrived ms candidates) (h' : r'.Arrived ms' candidates) :
    (∀ colour, matchLines colour r = matchLines colour r') ∧
    (∀ colour time, text colour r (matchLines colour r) time =
      text colour r' (matchLines colour r') time) ∧
    (∀ colour, plain (matchLines colour r) = plain (matchLines colour r')) ∧
    ∀ directory extensions time,
      json directory extensions r time = json directory extensions r' time := by
  have hviews := h.sameViews h' hperm hspelled hplaces
  refine ⟨matchLines_congr hviews, fun colour time => ?_, fun colour => ?_, json_congr hviews⟩
  · rw [matchLines_congr hviews, text_congr hviews]
  · rw [matchLines_congr hviews]

/-- Two files with as many matches, recorded in opposite orders and with the counts listed against
the order of recording, make the same reports. -/
theorem arrival_independent_tie :
    let a : Match := ⟨⟨"a/z"⟩, 2, "x", "x"⟩
    let b : Match := ⟨⟨"a.py"⟩, 1, "y", "y"⟩
    let r : ScanResult := ⟨[a, b], [(⟨"a.py"⟩, 1), (⟨"a/z"⟩, 1)], [⟨"a/z"⟩, ⟨"a.py"⟩]⟩
    let r' : ScanResult := ⟨[b, a], [(⟨"a/z"⟩, 1), (⟨"a.py"⟩, 1)], [⟨"a/z"⟩, ⟨"a.py"⟩]⟩
    r.Arrived [a, b] r.candidates ∧ r'.Arrived [b, a] r.candidates ∧
      (∀ colour, matchLines colour r = matchLines colour r') ∧
      ∀ directory extensions time,
        json directory extensions r time = json directory extensions r' time := by
  intro a b r r'
  have h : r.Arrived [a, b] r.candidates := ⟨rfl, by decide, rfl⟩
  have h' : r'.Arrived [b, a] r.candidates := ⟨rfl, by decide, rfl⟩
  obtain ⟨hlines, -, -, hjson⟩ :=
    arrival_independent (.swap b a []) (by decide) (by decide) h h'
  exact ⟨h, h', hlines, hjson⟩

end Report

end SecretScan
