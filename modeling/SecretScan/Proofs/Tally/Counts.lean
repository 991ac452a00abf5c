import Mathlib
import SecretScan.Proofs.Files.Path
import SecretScan.Proofs.Tally

/-!
# Counts and matches

The counts of a tally are a map from paths to numbers.  Paths are compared by their parts and not as
texts, and the entry of a file is spelled as in one of its matches.  Recording keeps the counts in
agreement with the matches (`Tally.Agrees.record`), so they agree in every tally, and the totals of a
result follow (`Tally.Agrees.consistent`).
-/

namespace SecretScan

namespace Tally

/-! ## 1. The counts as a map -/

/-- The count of a path, if it has one. -/
def countOf? (counts : List (Path × Nat)) (p : Path) : Option Nat :=
  (counts.find? fun e => e.1.same p).map Prod.snd

theorem countOf?_cons (e : Path × Nat) (counts : List (Path × Nat)) (p : Path) :
    countOf? (e :: counts) p = if e.1.parts = p.parts then some e.2 else countOf? counts p := by
  rw [countOf?, List.find?_cons, countOf?]
  by_cases h : e.1.parts = p.parts
  · rw [Path.same_iff_parts.mpr h, if_pos h, Option.map_some]
  · rw [Bool.eq_false_iff.mpr fun hsame => h (Path.same_iff_parts.mp hsame), if_neg h]

theorem isSome_countOf?_iff {counts : List (Path × Nat)} {p : Path} :
    (countOf? counts p).isSome ↔ p.parts ∈ counts.map (·.1.parts) := by
  induction counts with
  | nil => simp [countOf?]
  | cons e counts ih =>
    rw [countOf?_cons, List.map_cons, List.mem_cons, ← ih]
    by_cases h : e.1.parts = p.parts
    · simp [h]
    · simp [h, Ne.symm h]

/-- If no path has two entries, each entry is the one of its path. -/
theorem countOf?_of_mem {counts : List (Path × Nat)} (h : (counts.map (·.1.parts)).Nodup)
    {e : Path × Nat} (he : e ∈ counts) : countOf? counts e.1 = some e.2 := by
  induction counts with
  | nil => cases he
  | cons first counts ih =>
    have hfirst : first.1.parts ∉ counts.map (·.1.parts) := (List.nodup_cons.mp h).1
    rw [countOf?_cons]
    rcases List.mem_cons.mp he with rfl | hmem
    · rw [if_pos rfl]
    · have hparts : e.1.parts ∈ counts.map (·.1.parts) := List.mem_map.mpr ⟨e, hmem, rfl⟩
      have hne : first.1.parts ≠ e.1.parts := fun heq => hfirst (heq ▸ hparts)
      rw [if_neg hne, ih (List.nodup_cons.mp h).2 hmem]

/-! ## 2. One more match of a file -/

theorem countOf?_bump (file p : Path) (counts : List (Path × Nat)) :
    countOf? (bump file counts) p =
      if file.parts = p.parts then some ((countOf? counts p).getD 0 + 1)
      else countOf? counts p := by
  induction counts with
  | nil =>
    rw [bump, countOf?_cons]
    rfl
  | cons e counts ih =>
    obtain ⟨q, n⟩ := e
    rw [bump]
    -- the entry of the same path is the one that is counted up
    by_cases hq : q.parts = file.parts
    · rw [if_pos (Path.same_iff_parts.mpr hq), countOf?_cons, countOf?_cons, hq]
      split_ifs <;> rfl
    · rw [if_neg (fun hsame => hq (Path.same_iff_parts.mp hsame)), countOf?_cons, ih, countOf?_cons]
      by_cases hp : q.parts = p.parts
      · rw [if_pos hp, if_neg (fun hfile => hq (hp.trans hfile.symm)), if_pos hp]
      · rw [if_neg hp, if_neg hp]

/-- A file that has no entry gets one under its own spelling. -/
theorem keys_bump (file : Path) (counts : List (Path × Nat)) :
    (bump file counts).map Prod.fst = counts.map Prod.fst ++
      if file.parts ∈ counts.map (·.1.parts) then [] else [file] := by
  induction counts with
  | nil => rfl
  | cons e counts ih =>
    obtain ⟨q, n⟩ := e
    rw [bump]
    by_cases hq : q.parts = file.parts
    · rw [if_pos (Path.same_iff_parts.mpr hq)]
      simp [hq]
    · rw [if_neg (fun hsame => hq (Path.same_iff_parts.mp hsame)), List.map_cons, ih]
      simp only [List.map_cons, List.cons_append, List.mem_cons, Ne.symm hq, false_or]

theorem sum_bump (file : Path) (counts : List (Path × Nat)) :
    ((bump file counts).map Prod.snd).sum = (counts.map Prod.snd).sum + 1 := by
  induction counts with
  | nil => rfl
  | cons e counts ih =>
    obtain ⟨q, n⟩ := e
    rw [bump]
    split
    · simp only [List.map_cons, List.sum_cons]
      omega
    · simp only [List.map_cons, List.sum_cons, ih]
      omega

/-! ## 3. Agreement -/

/-- The number of matches of a file. -/
def matchCount (ms : List Match) (p : Path) : Nat := ms.countP fun m => m.file.parts = p.parts

theorem matchCount_concat (ms : List Match) (m : Match) (p : Path) :
    matchCount (ms ++ [m]) p = matchCount ms p + if m.file.parts = p.parts then 1 else 0 := by
  rw [matchCount, matchCount, List.countP_append, List.countP_singleton]
  simp only [decide_eq_true_eq]

theorem matchCount_ne_zero_iff {ms : List Match} {p : Path} :
    matchCount ms p ≠ 0 ↔ ∃ m ∈ ms, m.file.parts = p.parts := by
  rw [← Nat.pos_iff_ne_zero, matchCount, List.countP_pos_iff]
  simp only [decide_eq_true_eq]

/-- The counts agree with the matches: a path has an entry if it has a match, the entry is the number
of its matches, and it is spelled as in one of them. -/
structure Agrees (t : Tally) : Prop where
  distinct : (t.counts.map (·.1.parts)).Nodup
  entry : ∀ p, countOf? t.counts p =
    if matchCount t.matches_ p = 0 then none else some (matchCount t.matches_ p)
  spelled : ∀ e ∈ t.counts, ∃ m ∈ t.matches_, m.file = e.1
  total : (t.counts.map Prod.snd).sum = t.matches_.length

theorem Agrees.start : Agrees {} where
  distinct := .nil
  entry _ := rfl
  spelled _ he := nomatch he
  total := rfl

theorem Agrees.record {t : Tally} (h : t.Agrees) (m : Match) : (t.record m).Agrees where
  distinct := by
    have hparts := congrArg (List.map Path.parts) (keys_bump m.file t.counts)
    simp only [List.map_map, List.map_append, Function.comp_def] at hparts
    show ((bump m.file t.counts).map (·.1.parts)).Nodup
    rw [hparts]
    -- the path has an entry already, or it gets the only new one
    split_ifs with hmem
    · simpa using h.distinct
    · exact List.Nodup.append h.distinct (List.nodup_singleton _)
        (List.disjoint_singleton.mpr hmem)
  entry p := by
    show countOf? (bump m.file t.counts) p = if matchCount (t.matches_ ++ [m]) p = 0 then none
      else some (matchCount (t.matches_ ++ [m]) p)
    rw [countOf?_bump, h.entry p, matchCount_concat]
    by_cases hfile : m.file.parts = p.parts
    · rw [if_pos hfile, if_pos hfile, if_neg (Nat.succ_ne_zero _)]
      -- the first match of a file makes its entry
      by_cases hzero : matchCount t.matches_ p = 0
      · rw [if_pos hzero, hzero]
        rfl
      · rw [if_neg hzero]
        rfl
    · rw [if_neg hfile, if_neg hfile, Nat.add_zero]
  spelled e he := by
    have hkey : e.1 ∈ (bump m.file t.counts).map Prod.fst := List.mem_map_of_mem he
    rw [keys_bump, List.mem_append] at hkey
    show ∃ m' ∈ t.matches_ ++ [m], m'.file = e.1
    rcases hkey with hold | hnew
    · obtain ⟨old, hold, heq⟩ := List.mem_map.mp hold
      obtain ⟨m', hm', hfile⟩ := h.spelled old hold
      exact ⟨m', List.mem_append_left _ hm', hfile.trans heq⟩
    · split_ifs at hnew
      · cases hnew
      · exact ⟨m, List.mem_append_right _ (List.mem_singleton_self m),
          (List.mem_singleton.mp hnew).symm⟩
  total := by
    show ((bump m.file t.counts).map Prod.snd).sum = (t.matches_ ++ [m]).length
    rw [sum_bump, h.total, List.length_append, List.length_singleton]

theorem agrees_ofMatches (ms : List Match) : (ofMatches ms).Agrees := by
  have hfold : ∀ t : Tally, t.Agrees → (ms.foldl record t).Agrees := by
    induction ms with
    | nil => exact fun t h => h
    | cons m ms ih => exact fun t h => ih (t.record m) (h.record m)
  exact hfold {} .start

namespace Agrees

variable {t : Tally}

/-- Each entry is the number of the matches of its file. -/
theorem of_mem (h : t.Agrees) {e : Path × Nat} (he : e ∈ t.counts) :
    e.2 = matchCount t.matches_ e.1 ∧ 0 < e.2 := by
  have hentry := h.entry e.1
  rw [countOf?_of_mem h.distinct he] at hentry
  split_ifs at hentry with hzero
  have heq : e.2 = matchCount t.matches_ e.1 := Option.some.inj hentry
  exact ⟨heq, by omega⟩

theorem isSome_iff (h : t.Agrees) (p : Path) :
    (countOf? t.counts p).isSome ↔ ∃ m ∈ t.matches_, m.file.parts = p.parts := by
  rw [h.entry p, ← matchCount_ne_zero_iff]
  split_ifs with hzero
  · exact iff_of_false (by simp) (not_not.mpr hzero)
  · exact iff_of_true rfl hzero

/-- The paths with an entry are those with a match. -/
theorem mem_parts_iff (h : t.Agrees) {parts : List Path.Part} :
    parts ∈ t.counts.map (·.1.parts) ↔ parts ∈ t.matches_.map (·.file.parts) := by
  constructor
  · intro hmem
    obtain ⟨e, he, rfl⟩ := List.mem_map.mp hmem
    obtain ⟨m, hm, hfile⟩ := h.spelled e he
    exact List.mem_map.mpr ⟨m, hm, congrArg Path.parts hfile⟩
  · intro hmem
    obtain ⟨m, hm, rfl⟩ := List.mem_map.mp hmem
    exact isSome_countOf?_iff.mp ((h.isSome_iff m.file).mpr ⟨m, hm, rfl⟩)

end Agrees

end Tally

/-! ## 4. What a result promises -/

/-- The counts of a result are those of its matches.  Paths are the same if their parts are. -/
structure ScanResult.Consistent (r : ScanResult) : Prop where
  counted : ∀ p, (Tally.countOf? r.counts p).getD 0 =
    r.matches_.countP fun m => m.file.parts = p.parts
  listed : ∀ p, (Tally.countOf? r.counts p).isSome ↔ ∃ m ∈ r.matches_, m.file.parts = p.parts
  positive : ∀ e ∈ r.counts, 0 < e.2
  distinct : (r.counts.map fun e => e.1.parts).Nodup
  total : r.totalMatches = (r.counts.map Prod.snd).sum
  files : r.filesWithMatches = (r.matches_.map fun m => m.file.parts).toFinset.card

theorem Tally.Agrees.consistent {t : Tally} (h : t.Agrees) (candidates : List Path) :
    (t.finish candidates).Consistent where
  counted p := by
    show (countOf? t.counts p).getD 0 = matchCount t.matches_ p
    rw [h.entry p]
    split_ifs with hzero
    · exact hzero.symm
    · rfl
  listed := h.isSome_iff
  positive e he := (h.of_mem he).2
  distinct := h.distinct
  total := h.total.symm
  files := by
    show t.counts.length = (t.matches_.map fun m => m.file.parts).toFinset.card
    -- the paths with an entry are those of the matches
    have hsame : (t.counts.map fun e => e.1.parts).toFinset =
        (t.matches_.map fun m => m.file.parts).toFinset := by
      ext parts
      rw [List.mem_toFinset, List.mem_toFinset, h.mem_parts_iff]
    rw [← hsame, List.toFinset_card_of_nodup h.distinct, List.length_map]

end SecretScan
