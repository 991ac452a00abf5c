import Mathlib
import SecretScan.Proofs.Report.Arrival
import SecretScan.Proofs.Report.ReadBack

/-!
# The files with the most matches

A listing of the files with the most matches shows the right files, with their true counts and in the
right order, and a longer listing goes on where a shorter one ends.  The table of the report for
readers is therefore the beginning of the list in the report for programs
(`Report.topFiles_ranked`).
-/

namespace SecretScan

namespace ScanResult

/-! ## 1. Ranks -/

/-- An entry ranks above another one if it has more matches, or as many and the smaller path. -/
def Outranks (a b : Path × Nat) : Prop := b.2 < a.2 ∨ (a.2 = b.2 ∧ a.1.lt b.1 = true)

theorem outranks_iff {a b : Path × Nat} : Outranks a b ↔ rank a < rank b := by
  rw [rank, rank, Prod.Lex.toLex_lt_toLex, Outranks, Path.lt_iff]
  simp

/-- Only the parts of a path count for its rank, and not how it is spelled. -/
theorem Outranks.congr_right {a b c : Path × Nat} (h : Outranks a b) (hparts : b.1.parts = c.1.parts)
    (hcount : b.2 = c.2) : Outranks a c := by
  have hrank : rank b = rank c := by
    rw [rank, rank, hcount, Path.key_eq_iff.mpr hparts]
  rw [outranks_iff] at h ⊢
  exact hrank ▸ h

/-- The counts, ranked. -/
def ranked (r : ScanResult) : List (Path × Nat) := r.counts.mergeSort ranksBefore

theorem ranked_perm (r : ScanResult) : r.ranked.Perm r.counts := List.mergeSort_perm r.counts _

theorem topFiles_eq (r : ScanResult) (n : Nat) : r.topFiles n = r.ranked.take n := rfl

/-- No two entries have the same rank, since no two have the same path. -/
theorem pairwise_ranked {r : ScanResult} (hdistinct : (r.counts.map fun e => e.1.parts).Nodup) :
    r.ranked.Pairwise Outranks := by
  have hle : r.ranked.Pairwise fun a b => rank a ≤ rank b :=
    pairwise_mergeSort_of_iff (f := rank) (fun _ _ => ranksBefore_iff) r.counts
  have hne : r.ranked.Pairwise fun a b => a.1.parts ≠ b.1.parts := by
    apply List.pairwise_map.mp
    exact (r.ranked_perm.map fun e => e.1.parts).nodup_iff.mpr hdistinct
  refine (hle.and hne).imp fun {a b} h => ?_
  apply outranks_iff.mpr
  -- equal ranks would mean equal paths
  apply lt_of_le_of_ne h.1
  intro heq
  have hkey : a.1.key = b.1.key := (Prod.ext_iff.mp (toLex.injective heq)).2
  exact h.2 (Path.key_eq_iff.mp hkey)

/-! ## 2. Listings -/

/-- A listing of the `n` files with the most matches of a result, or of all files with matches if
they are fewer. -/
structure Tops (r : ScanResult) (n : Nat) (top : List (Path × Nat)) : Prop where
  length : top.length = min n r.filesWithMatches
  /-- A file is listed under the path of one of its matches, with the number of them all. -/
  counted : ∀ e ∈ top, (∃ m ∈ r.matches_, m.file = e.1) ∧
    e.2 = r.matches_.countP fun m => m.file.parts = e.1.parts
  distinct : (top.map fun e => e.1.parts).Nodup
  ranked : top.Pairwise Outranks
  /-- A file with matches that is left out ranks below all that are listed. -/
  leftOut : ∀ m ∈ r.matches_, m.file.parts ∉ top.map (fun e => e.1.parts) →
    ∀ e ∈ top, Outranks e (m.file, r.matches_.countP fun m' => m'.file.parts = m.file.parts)

/-- The entries of a result are what they are in a tally of its matches. -/
theorem Arrived.agrees {ms : List Match} {candidates : List Path} {r : ScanResult}
    (h : r.Arrived ms candidates) {e : Path × Nat} (he : e ∈ r.counts) :
    (∃ m ∈ r.matches_, m.file = e.1) ∧
      e.2 = r.matches_.countP fun m => m.file.parts = e.1.parts := by
  have hagrees := Tally.agrees_ofMatches ms
  have hmem : e ∈ (Tally.ofMatches ms).counts := h.counts.mem_iff.mp he
  have hspelled := hagrees.spelled e hmem
  have hcount := (hagrees.of_mem hmem).1
  rw [Tally.matches_ofMatches] at hspelled hcount
  rw [h.matches_]
  exact ⟨hspelled, hcount⟩

theorem Arrived.distinct {ms : List Match} {candidates : List Path} {r : ScanResult}
    (h : r.Arrived ms candidates) : (r.counts.map fun e => e.1.parts).Nodup :=
  (h.counts.map _).nodup_iff.mpr (Tally.agrees_ofMatches ms).distinct

/-- A file with a match has an entry. -/
theorem Arrived.exists_entry {ms : List Match} {candidates : List Path} {r : ScanResult}
    (h : r.Arrived ms candidates) {m : Match} (hm : m ∈ r.matches_) :
    ∃ e ∈ r.counts, e.1.parts = m.file.parts := by
  have hagrees := Tally.agrees_ofMatches ms
  have hmem : m ∈ (Tally.ofMatches ms).matches_ := by
    rwa [Tally.matches_ofMatches, ← h.matches_]
  have hparts : m.file.parts ∈ (Tally.ofMatches ms).counts.map (·.1.parts) :=
    hagrees.mem_parts_iff.mpr (List.mem_map_of_mem hmem)
  obtain ⟨e, he, heq⟩ := List.mem_map.mp hparts
  exact ⟨e, h.counts.mem_iff.mpr he, heq⟩

theorem outranks_of_mem_drop {r : ScanResult} (h : r.ranked.Pairwise Outranks) {n : Nat}
    {a b : Path × Nat} (ha : a ∈ r.topFiles n) (hb : b ∈ r.ranked.drop n) : Outranks a b := by
  rw [← List.take_append_drop n r.ranked] at h
  exact (List.pairwise_append.mp h).2.2 a ha b hb

theorem Arrived.tops {ms : List Match} {candidates : List Path} {r : ScanResult}
    (h : r.Arrived ms candidates) (n : Nat) : r.Tops n (r.topFiles n) := by
  have hpairwise := pairwise_ranked h.distinct
  have hsublist : (r.topFiles n).Sublist r.ranked := List.take_sublist n _
  have hlisted : ∀ e ∈ r.topFiles n, e ∈ r.counts := fun e he =>
    r.ranked_perm.mem_iff.mp (hsublist.subset he)
  refine ⟨?_, fun e he => h.agrees (hlisted e he), ?_, hpairwise.sublist hsublist, ?_⟩
  · rw [topFiles_eq, List.length_take, r.ranked_perm.length_eq, filesWithMatches]
  · have hnodup : (r.ranked.map fun e => e.1.parts).Nodup :=
      (r.ranked_perm.map _).nodup_iff.mpr h.distinct
    exact hnodup.sublist (hsublist.map _)
  · intro m hm hout e he
    obtain ⟨left, hleft, hparts⟩ := h.exists_entry hm
    -- what is not among the first `n` entries comes after them
    have hdrop : left ∈ r.ranked.drop n := by
      have hmem : left ∈ r.ranked.take n ++ r.ranked.drop n := by
        rw [List.take_append_drop]
        exact r.ranked_perm.mem_iff.mpr hleft
      apply (List.mem_append.mp hmem).resolve_left
      intro htop
      exact hout (hparts ▸ List.mem_map_of_mem htop)
    have hcount : left.2 = r.matches_.countP fun m' => m'.file.parts = m.file.parts := by
      rw [(h.agrees hleft).2, hparts]
    exact (outranks_of_mem_drop hpairwise he hdrop).congr_right (c := (m.file, _)) hparts hcount

theorem topFiles_prefix (r : ScanResult) {n m : Nat} (h : n ≤ m) :
    r.topFiles n <+: r.topFiles m := by
  rw [topFiles_eq, topFiles_eq]
  exact List.take_prefix_take_left h

/-- With as many entries as there are files with matches, a listing is complete. -/
theorem take_topFiles (r : ScanResult) (n : Nat) :
    (r.topFiles r.filesWithMatches).take n = r.topFiles n := by
  have hall : r.topFiles r.filesWithMatches = r.ranked := by
    rw [topFiles_eq, filesWithMatches, ← r.ranked_perm.length_eq, List.take_length]
  rw [hall, topFiles_eq]

end ScanResult

/-! ## 3. The table and the list -/

namespace Report

open Terminal (Style)

/-- A row of the table. -/
def tableRow (colour : Bool) (e : Path × Nat) : List Char :=
  Style.secondary.apply colour
    (padRight 7 (toString e.2).toList ++ " | ".toList ++ padRight 9 e.1.text.toList)

theorem drop_table (colour : Bool) (r : ScanResult) :
    (table colour r).drop 2 = (r.topFiles tableSize).map (tableRow colour) := rfl

/-- However the counts of a result are listed, and however many files are asked for, the listing is
that of the files with the most matches; a shorter listing is the beginning of a longer one.  In the
report for programs all files are listed, and the rows of the table for readers are the first of
these. -/
theorem topFiles_ranked {ms : List Match} {candidates : List Path} {r : ScanResult}
    (h : r.Arrived ms candidates) :
    (∀ n, r.Tops n (r.topFiles n)) ∧
    (∀ n m, n ≤ m → r.topFiles n <+: r.topFiles m) ∧
    ∀ colour directory extensions time, ∃ d c,
      Json.read (json directory extensions r time) = some d ∧ contents? d = some c ∧
      r.Tops r.filesWithMatches c.topFiles ∧
      (table colour r).drop 2 = (c.topFiles.take tableSize).map (tableRow colour) := by
  refine ⟨h.tops, fun n m => r.topFiles_prefix, fun colour directory extensions time => ?_⟩
  have hread := (Json.spells_text_line (value directory extensions r time)).read_eq
  refine ⟨_, _, hread, contents?_value directory extensions r time, h.tops _, ?_⟩
  rw [drop_table, ← r.take_topFiles]
  rfl

/-- Three files, one of them in two spellings.  Two have as many matches, and `a/z` comes before
`a.py`, although a slash does not come before a dot in a text. -/
def tiedMatches : List Match :=
  [⟨⟨"c.py"⟩, 1, "x", "x"⟩, ⟨⟨"a.py"⟩, 1, "x", "x"⟩, ⟨⟨"a//z"⟩, 2, "x", "x"⟩,
    ⟨⟨"a.py"⟩, 7, "y", "y"⟩, ⟨⟨"a/z"⟩, 4, "y", "y"⟩]

/-- The spelling that came first stands for both, and of the two files with as many matches the one
that comes first as a path is ranked first. -/
theorem topFiles_ranked_tie :
    let r : ScanResult := ⟨tiedMatches, [(⟨"a.py"⟩, 2), (⟨"c.py"⟩, 1), (⟨"a//z"⟩, 2)], []⟩
    r.Arrived tiedMatches [] ∧
      r.topFiles 2 = [(⟨"a//z"⟩, 2), (⟨"a.py"⟩, 2)] ∧ r.Tops 2 (r.topFiles 2) ∧
      r.topFiles 2 <+: r.topFiles 5 := by
  intro r
  have h : r.Arrived tiedMatches [] := ⟨rfl, by decide, rfl⟩
  obtain ⟨htops, hprefix, -⟩ := topFiles_ranked h
  exact ⟨h, by cbv, htops 2, hprefix 2 5 (by decide)⟩

end Report

end SecretScan
