import Mathlib
import SecretScan.Proofs.Tally.Counts

/-!
# The order of counts

Counts are ranked by the number of matches, the larger first, and then by path.  No two entries have
the same path, so ranking brings the counts into one order, whatever the order in which they are
listed (`ScanResult.topFiles_eq_of_perm`).
-/

namespace SecretScan

namespace ScanResult

/-- What an entry is ranked by. -/
def rank (e : Path × Nat) : Natᵒᵈ ×ₗ List (List Nat) := toLex (OrderDual.toDual e.2, e.1.key)

theorem ranksBefore_iff {a b : Path × Nat} : ranksBefore a b = true ↔ rank a ≤ rank b := by
  rw [rank, rank, Prod.Lex.toLex_le_toLex, ranksBefore, Bool.or_eq_true, Bool.and_eq_true,
    decide_eq_true_eq, beq_iff_eq, Path.le_iff]
  simp

/-- Listings of the same counts have the same ranking. -/
theorem topFiles_eq_of_perm {r r' : ScanResult} (h : r.counts.Perm r'.counts)
    (hdistinct : (r.counts.map fun e => e.1.parts).Nodup) (n : Nat) :
    r.topFiles n = r'.topFiles n := by
  have hranks : (r.counts.map rank).Nodup := by
    refine List.pairwise_map.mpr ((List.pairwise_map.mp hdistinct).imp fun hne heq => hne ?_)
    exact Path.key_eq_iff.mp (Prod.ext_iff.mp (toLex.injective heq)).2
  have hsort : r.counts.mergeSort ranksBefore = r'.counts.mergeSort ranksBefore :=
    mergeSort_eq_of_perm (f := rank) (fun _ _ => ranksBefore_iff) h hranks
  rw [topFiles, hsort, topFiles]

end ScanResult

namespace Tally.Agrees

variable {t t' : Tally}

/-- If each path has one spelling, the entries are determined by the matches. -/
theorem mem_counts_iff (h : t.Agrees)
    (hspelled : ∀ a ∈ t.matches_, ∀ b ∈ t.matches_, a.file.same b.file → a.file = b.file)
    (e : Path × Nat) :
    e ∈ t.counts ↔ (∃ m ∈ t.matches_, m.file = e.1) ∧ e.2 = matchCount t.matches_ e.1 := by
  refine ⟨fun he => ⟨h.spelled e he, (h.of_mem he).1⟩, fun ⟨⟨m, hm, hfile⟩, hcount⟩ => ?_⟩
  -- the path of the match has an entry, which can only be this one
  obtain ⟨e', he', hparts⟩ :=
    List.mem_map.mp (h.mem_parts_iff.mpr (List.mem_map.mpr ⟨m, hm, rfl⟩))
  obtain ⟨m', hm', hfile'⟩ := h.spelled e' he'
  have hpath : e'.1 = e.1 := by
    rw [← hfile', ← hfile]
    exact hspelled m' hm' m hm (Path.same_iff_parts.mpr (hfile' ▸ hparts))
  have heq : e' = e := Prod.ext hpath (by rw [(h.of_mem he').1, hpath, hcount])
  exact heq ▸ he'

/-- Tallies of the same matches have the same entries, whatever the order of the matches. -/
theorem counts_perm (h : t.Agrees) (h' : t'.Agrees) (hperm : t.matches_.Perm t'.matches_)
    (hspelled : ∀ a ∈ t.matches_, ∀ b ∈ t.matches_, a.file.same b.file → a.file = b.file) :
    t.counts.Perm t'.counts := by
  have hspelled' : ∀ a ∈ t'.matches_, ∀ b ∈ t'.matches_, a.file.same b.file → a.file = b.file :=
    fun a ha b hb => hspelled a (hperm.mem_iff.mpr ha) b (hperm.mem_iff.mpr hb)
  refine (List.perm_ext_iff_of_nodup h.distinct.of_map h'.distinct.of_map).mpr fun e => ?_
  rw [h.mem_counts_iff hspelled, h'.mem_counts_iff hspelled', matchCount, matchCount,
    hperm.countP_eq]
  simp only [hperm.mem_iff]

end Tally.Agrees

end SecretScan
