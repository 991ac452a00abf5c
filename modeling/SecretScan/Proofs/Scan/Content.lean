import SecretScan.Proofs.Text.Line
import SecretScan.Scan.Content

/-!
# A content is scanned line by line

Reading byte by byte comes to the same as cutting the content into lines first and looking at each
line on its own (`Matchers.scan_eq`).
-/

namespace SecretScan

/-- The hit in the line with a number, given by the bytes of the line without its end. -/
def Matchers.lineHit (m : Matchers) (number : Nat) (raw : Bytes) : Option Hit :=
  if raw.length ≤ shortLine then none
  else (m.report (Utf8.decodeLossy raw)).map fun secret => ⟨number, Utf8.decodeLossy raw, secret⟩

/-- The hits in lines that are numbered from `n` on. -/
def Matchers.lineHits (m : Matchers) (n : Nat) (lines : List Bytes) : List Hit :=
  (lines.zipIdx n).filterMap fun x => m.lineHit x.2 (Line.dropFinal 0x0d x.1)

theorem Matchers.lineHits_cons (m : Matchers) (n : Nat) (line : Bytes) (lines : List Bytes) :
    m.lineHits n (line :: lines) =
      (m.lineHit n (Line.dropFinal 0x0d line)).toList ++ m.lineHits (n + 1) lines := by
  rw [lineHits, List.zipIdx_cons, List.filterMap_cons]
  cases m.lineHit n (Line.dropFinal 0x0d line) <;> rfl

namespace LineReader

theorem rawLine_eq (current : Bytes) :
    rawLine current = Line.dropFinal 0x0d current.reverse := by
  cases current with
  | nil => rfl
  | cons b rest =>
    rw [List.reverse_cons, Line.dropFinal_concat, ← List.reverse_cons]
    rfl

theorem endLine_eq (m : Matchers) (r : LineReader) : r.endLine m =
    let hit := (m.lineHit (r.complete + 1) (Line.dropFinal 0x0d r.current.reverse)).toList
    ⟨r.complete + 1, [], hit ++ r.hits, r.count + hit.length⟩ := by
  rw [← rawLine_eq, endLine, Matchers.lineHit]
  split
  · rfl
  · dsimp only
    cases m.report (Utf8.decodeLossy (rawLine r.current)) <;> rfl

/-- What is read from `r` on is cut into lines together with the bytes of the line being read. -/
theorem hits_finish_foldl (m : Matchers) (content : Bytes) (r : LineReader)
    (h : 0x0a ∉ r.current) :
    ((content.foldl (push m) r).finish m).hits.reverse =
      r.hits.reverse ++
        m.lineHits (r.complete + 1) (Line.terminated 0x0a (r.current.reverse ++ content)) := by
  have hrev : 0x0a ∉ r.current.reverse := by simpa using h
  induction content generalizing r with
  | nil =>
    rw [List.foldl_nil, List.append_nil, finish]
    split
    -- at the end, a line that was begun counts even without its line feed
    next hempty =>
      rw [hempty]
      exact (List.append_nil _).symm
    next hline =>
      have hne : r.current.reverse ≠ [] := by simpa using hline
      rw [Line.terminated_eq_singleton hrev hne, Matchers.lineHits_cons, endLine_eq,
        List.reverse_append]
      cases m.lineHit (r.complete + 1) (Line.dropFinal 0x0d r.current.reverse) <;>
        simp [Matchers.lineHits]
  | cons b content ih =>
    rw [List.foldl_cons, push]
    split
    -- a line feed ends the line at hand, and the next one begins empty
    next hb =>
      subst hb
      rw [ih _ (by simp [endLine_eq]) (by simp [endLine_eq]), endLine_eq,
        Line.terminated_append_cons hrev, Matchers.lineHits_cons]
      cases m.lineHit (r.complete + 1) (Line.dropFinal 0x0d r.current.reverse) <;> simp
    next hb =>
      have hmem : 0x0a ∉ b :: r.current := by simp [h, Ne.symm hb]
      rw [ih _ hmem (fun hrev => hmem (List.mem_reverse.mp hrev)), List.reverse_cons,
        List.append_assoc, List.singleton_append]

theorem count_endLine (m : Matchers) {r : LineReader} (h : r.count = r.hits.length) :
    (r.endLine m).count = (r.endLine m).hits.length := by
  rw [endLine_eq]
  dsimp only
  rw [h, List.length_append, Nat.add_comm]

theorem count_foldl (m : Matchers) (content : Bytes) {r : LineReader}
    (h : r.count = r.hits.length) :
    (content.foldl (push m) r).count = (content.foldl (push m) r).hits.length := by
  induction content generalizing r with
  | nil => exact h
  | cons b content ih =>
    apply ih
    unfold push
    split
    · exact count_endLine m h
    · exact h

end LineReader

/-- What is counted while a content is read are its hits. -/
theorem Matchers.count_eq (m : Matchers) (content : Bytes) :
    m.count content = (m.scan content).length := by
  have hcount := LineReader.count_foldl m content (r := .start) rfl
  rw [count, scan, List.length_reverse, readLines, LineReader.finish]
  split
  · exact hcount
  · exact LineReader.count_endLine m hcount

/-- The hits in a content are the hits in its lines, which are numbered from one. -/
theorem Matchers.scan_eq (m : Matchers) (content : Bytes) :
    m.scan content = m.lineHits 1 (Line.terminated 0x0a content) :=
  LineReader.hits_finish_foldl m content .start (by simp [LineReader.start])

/-- What is reported of a hit's line is the secret of the hit. -/
theorem Matchers.report_of_mem_scan {m : Matchers} {content : Bytes} {hit : Hit}
    (h : hit ∈ m.scan content) : m.report hit.line = some hit.secret := by
  rw [scan_eq, lineHits] at h
  obtain ⟨x, -, hx⟩ := List.mem_filterMap.mp h
  rw [lineHit] at hx
  split at hx
  next => cases hx
  next =>
    obtain ⟨secret, hreport, rfl⟩ := Option.map_eq_some_iff.mp hx
    exact hreport

/-- Hits in lines are in the order of their numbers, and no number comes twice. -/
theorem Matchers.pairwise_lineHits (m : Matchers) (n : Nat) (lines : List Bytes) :
    (m.lineHits n lines).Pairwise (fun a b => a.number < b.number) ∧
      ∀ hit ∈ m.lineHits n lines, n ≤ hit.number := by
  induction lines generalizing n with
  | nil => simp [lineHits]
  | cons line lines ih =>
    obtain ⟨hpairwise, hfrom⟩ := ih (n + 1)
    rw [lineHits_cons]
    -- a line has one hit at most, under its own number
    have hnumber : ∀ hit ∈ (m.lineHit n (Line.dropFinal 0x0d line)).toList, hit.number = n := by
      intro hit hhit
      rw [Option.mem_toList, lineHit] at hhit
      split_ifs at hhit
      obtain ⟨secret, -, rfl⟩ := Option.mem_map.mp hhit
      rfl
    refine ⟨List.pairwise_append.mpr ⟨?_, hpairwise, fun a ha b hb => ?_⟩, fun hit hhit => ?_⟩
    · cases m.lineHit n (Line.dropFinal 0x0d line) <;> simp
    · have := hfrom b hb
      rw [hnumber a ha]
      omega
    · rcases List.mem_append.mp hhit with hfirst | hrest
      · exact (hnumber hit hfirst).ge
      · exact (Nat.le_succ n).trans (hfrom hit hrest)

theorem Matchers.pairwise_scan (m : Matchers) (content : Bytes) :
    (m.scan content).Pairwise fun a b => a.number < b.number :=
  m.scan_eq content ▸ (m.pairwise_lineHits 1 _).1

end SecretScan
