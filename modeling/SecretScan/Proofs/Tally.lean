import SecretScan.Proofs.Files.Path
import SecretScan.Tally

/-!
# The order of matches

Matches are ordered by file and line.  If no place has two matches, sorting brings them into one
order, whatever the order in which they were recorded (`ScanResult.sortedMatches_eq`).
-/

namespace SecretScan

section

variable {α β : Type} [LinearOrder β] {f : α → β} {le : α → α → Bool}
  (hle : ∀ a b, le a b = true ↔ f a ≤ f b)
include hle

theorem pairwise_mergeSort_of_iff (l : List α) :
    (l.mergeSort le).Pairwise fun a b => f a ≤ f b := by
  refine (List.pairwise_mergeSort (fun a b c hab hbc => ?_) (fun a b => ?_) l).imp (hle _ _).mp
  · exact (hle a c).mpr (((hle a b).mp hab).trans ((hle b c).mp hbc))
  · rw [Bool.or_eq_true, hle, hle]
    exact le_total (f a) (f b)

/-- Lists of the same elements are sorted into one list if the elements differ in what they are
compared by. -/
theorem mergeSort_eq_of_perm {l l' : List α} (h : l.Perm l') (hdistinct : (l.map f).Nodup) :
    l.mergeSort le = l'.mergeSort le := by
  have hperm : (l.mergeSort le).Perm (l'.mergeSort le) :=
    ((List.mergeSort_perm l le).trans h).trans (List.mergeSort_perm l' le).symm
  refine List.Perm.eq_of_pairwise (fun a b ha hb hab hba => ?_)
    (pairwise_mergeSort_of_iff hle l) (pairwise_mergeSort_of_iff hle l') hperm
  -- two elements that come before each other are compared by the same thing
  refine List.inj_on_of_nodup_map hdistinct (List.mem_mergeSort.mp ha) ?_ (le_antisymm hab hba)
  exact h.mem_iff.mpr (List.mem_mergeSort.mp hb)

end

/-- The place of a match. -/
def Match.place (m : Match) : List (List Nat) ×ₗ Nat := toLex (m.file.key, m.line)

namespace ScanResult

theorem comesBefore_iff {a b : Match} : comesBefore a b = true ↔ a.place ≤ b.place := by
  rw [Match.place, Match.place, Prod.Lex.toLex_le_toLex, comesBefore]
  by_cases hsame : a.file.key = b.file.key
  · rw [if_pos (Path.same_iff.mpr hsame), decide_eq_true_eq]
    simp [hsame]
  · rw [if_neg (fun h => hsame (Path.same_iff.mp h)), Path.le_iff, le_iff_lt_or_eq]
    simp [hsame]

theorem pairwise_sortedMatches (r : ScanResult) :
    r.sortedMatches.Pairwise fun a b => a.place ≤ b.place :=
  pairwise_mergeSort_of_iff (f := Match.place) (fun _ _ => comesBefore_iff) r.matches_

/-- If the matches are, in some order, those of a list in which places increase, then sorting makes
this list of them. -/
theorem sortedMatches_eq {r : ScanResult} {expected : List Match} (h : r.matches_.Perm expected)
    (hplaces : expected.Pairwise fun a b => a.place < b.place) : r.sortedMatches = expected := by
  have hdistinct : (expected.map Match.place).Nodup :=
    List.pairwise_map.mpr (hplaces.imp fun hlt => hlt.ne)
  have hsort : r.sortedMatches = expected.mergeSort comesBefore :=
    mergeSort_eq_of_perm (f := Match.place) (fun _ _ => comesBefore_iff) h
      ((h.map Match.place).nodup_iff.mpr hdistinct)
  rw [hsort]
  exact List.mergeSort_of_pairwise (hplaces.imp fun hlt => comesBefore_iff.mpr hlt.le)

end ScanResult

/-- Recording keeps matches in the order in which they come. -/
theorem Tally.matches_ofMatches (ms : List Match) : (Tally.ofMatches ms).matches_ = ms := by
  have hfold : ∀ t : Tally, (ms.foldl record t).matches_ = t.matches_ ++ ms := by
    induction ms with
    | nil => exact fun t => (List.append_nil _).symm
    | cons m ms ih =>
      intro t
      rw [List.foldl_cons, ih, record, List.append_assoc, List.singleton_append]
  exact hfold {}

end SecretScan
