import Mathlib
import SecretScan.Config.Basic

/-!
# Excluded names

The names that are always excluded are merged with others one by one: a name is put at the end unless
it is already there.  The result has every name once, and new names in the order in which they are
given first (`Config.mergeExcludeDirs_merged`).
-/

namespace SecretScan.Config

/-! ## 1. One name after the other -/

/-- Puts a name at the end of a list that does not have it. -/
def insertNew (merged : List String) (name : String) : List String :=
  if merged.contains name then merged else merged ++ [name]

theorem insertNew_of_mem {merged : List String} {name : String} (h : name ∈ merged) :
    insertNew merged name = merged := if_pos (List.contains_iff_mem.mpr h)

theorem insertNew_of_notMem {merged : List String} {name : String} (h : name ∉ merged) :
    insertNew merged name = merged ++ [name] :=
  if_neg fun hcontains => h (List.contains_iff_mem.mp hcontains)

/-- Names that are already there change nothing. -/
theorem foldl_insertNew_of_subset {merged names : List String} (h : names ⊆ merged) :
    names.foldl insertNew merged = merged := by
  induction names with
  | nil => rfl
  | cons name names ih =>
    rw [List.cons_subset] at h
    rw [List.foldl_cons, insertNew_of_mem h.1, ih h.2]

/-- Names that are all new and different are appended. -/
theorem foldl_insertNew_of_nodup {merged names : List String} (h : (merged ++ names).Nodup) :
    names.foldl insertNew merged = merged ++ names := by
  induction names generalizing merged with
  | nil => exact (List.append_nil merged).symm
  | cons name names ih =>
    rw [List.append_cons] at h
    have hnew : name ∉ merged := by
      intro hmem
      exact (List.nodup_append.mp h.of_append_left).2.2 name hmem name (by simp) rfl
    rw [List.foldl_cons, insertNew_of_notMem hnew, ih h, ← List.append_cons]

theorem mergeExcludeDirs_eq (extra : List String) :
    mergeExcludeDirs extra = extra.foldl insertNew defaultExcludeDirs := by
  have hdefault : defaultExcludeDirs.foldl insertNew [] = defaultExcludeDirs :=
    foldl_insertNew_of_nodup (by decide)
  show (defaultExcludeDirs ++ extra).foldl insertNew [] = _
  rw [List.foldl_append, hdefault]

/-! ## 2. What merging gives -/

/-- Further names are merged into a list: it comes first, as it is, and after it the new ones in the
order in which they occur first.  No name is lost and none is there twice. -/
structure Merges (names extra merged : List String) : Prop where
  starts : names <+: merged
  nodup : merged.Nodup
  mem_iff : ∀ name, name ∈ merged ↔ name ∈ names ∨ name ∈ extra
  inOrder : (merged.drop names.length).Pairwise fun a b => extra.idxOf a < extra.idxOf b

namespace Merges

variable {names extra merged : List String}

theorem refl (h : names.Nodup) : Merges names [] names where
  starts := List.prefix_refl names
  nodup := h
  mem_iff := fun name => by simp
  inOrder := by simp

theorem mem_extra_of_mem_drop (h : Merges names extra merged) {name : String}
    (hname : name ∈ merged.drop names.length) : name ∈ extra := by
  obtain ⟨rest, rfl⟩ := h.starts
  rw [List.drop_left] at hname
  -- the names before it are other ones
  have hnot : name ∉ names := by
    intro hmem
    exact (List.nodup_append.mp h.nodup).2.2 name hmem name hname rfl
  exact ((h.mem_iff name).mp (List.mem_append_right names hname)).resolve_left hnot

/-- What holds of the names so far holds with one more. -/
theorem insertNew (h : Merges names extra merged) (name : String) :
    Merges names (extra ++ [name]) (insertNew merged name) := by
  -- the places of earlier names stay
  have hplace : ∀ a ∈ merged.drop names.length, (extra ++ [name]).idxOf a = extra.idxOf a :=
    fun a ha => List.idxOf_append_of_mem (h.mem_extra_of_mem_drop ha)
  have hinOrder : (merged.drop names.length).Pairwise
      fun a b => (extra ++ [name]).idxOf a < (extra ++ [name]).idxOf b := by
    apply h.inOrder.imp_of_mem
    intro a b ha hb hlt
    rwa [hplace a ha, hplace b hb]
  by_cases hmem : name ∈ merged
  · rw [insertNew_of_mem hmem]
    refine ⟨h.starts, h.nodup, fun a => ?_, hinOrder⟩
    rw [h.mem_iff, List.mem_append, List.mem_singleton]
    constructor
    · exact fun ha => ha.imp_right .inl
    · intro ha
      rcases ha with ha | ha | rfl
      · exact .inl ha
      · exact .inr ha
      · exact (h.mem_iff a).mp hmem
  · rw [insertNew_of_notMem hmem]
    have hextra : name ∉ extra := fun ha => hmem ((h.mem_iff name).mpr (.inr ha))
    refine ⟨h.starts.trans (List.prefix_append merged [name]), ?_, fun a => ?_, ?_⟩
    · exact h.nodup.append (List.nodup_singleton name) (List.disjoint_singleton.mpr hmem)
    · rw [List.mem_append, List.mem_append, h.mem_iff, or_assoc]
    · rw [List.drop_append_of_le_length h.starts.length_le]
      apply List.pairwise_append.mpr
      refine ⟨hinOrder, List.pairwise_singleton _ name, fun a ha b hb => ?_⟩
      -- a new name has the last place
      rw [List.mem_singleton] at hb
      have hlast : (extra ++ [name]).idxOf name = extra.length := by
        rw [List.idxOf_append_of_notMem hextra, List.idxOf_cons_self]
        rfl
      rw [hb, hlast, hplace a ha]
      exact List.idxOf_lt_length_of_mem (h.mem_extra_of_mem_drop ha)

/-- By induction on the names that are still to be merged. -/
theorem foldl_insertNew (h : Merges names extra merged) (more : List String) :
    Merges names (extra ++ more) (more.foldl Config.insertNew merged) := by
  induction more generalizing extra merged with
  | nil => rwa [List.append_nil]
  | cons name more ih =>
    rw [List.append_cons]
    exact ih (h.insertNew name)

/-- What was merged is found again when it is merged once more. -/
theorem foldl_eq (h : Merges names extra merged) :
    merged.foldl Config.insertNew names = merged := by
  have hstarts := h.starts
  obtain ⟨rest, rfl⟩ := hstarts
  rw [List.foldl_append, foldl_insertNew_of_subset (List.Subset.refl names),
    foldl_insertNew_of_nodup h.nodup]

end Merges

theorem merges_mergeExcludeDirs (extra : List String) :
    Merges defaultExcludeDirs extra (mergeExcludeDirs extra) := by
  rw [mergeExcludeDirs_eq]
  exact (Merges.refl (by decide)).foldl_insertNew extra

/-- Further names are merged into those that are always excluded without loss or repetition.  It
makes no difference whether names are merged at once or in two parts, and merging the result once more
gives it again. -/
theorem mergeExcludeDirs_merged (extra more : List String) :
    Merges defaultExcludeDirs extra (mergeExcludeDirs extra) ∧
    mergeExcludeDirs (mergeExcludeDirs extra) = mergeExcludeDirs extra ∧
    mergeExcludeDirs (extra ++ more) = mergeExcludeDirs (mergeExcludeDirs extra ++ more) := by
  have hmerges := merges_mergeExcludeDirs extra
  -- nothing of what is merged already is new
  have hagain : mergeExcludeDirs (mergeExcludeDirs extra) = mergeExcludeDirs extra := by
    rw [mergeExcludeDirs_eq (mergeExcludeDirs extra)]
    exact hmerges.foldl_eq
  refine ⟨hmerges, hagain, ?_⟩
  calc
    _ = more.foldl insertNew (mergeExcludeDirs extra) := by
      rw [mergeExcludeDirs_eq, List.foldl_append, ← mergeExcludeDirs_eq]
    _ = more.foldl insertNew (mergeExcludeDirs (mergeExcludeDirs extra)) := by rw [hagain]
    _ = mergeExcludeDirs (mergeExcludeDirs extra ++ more) := by
      rw [mergeExcludeDirs_eq (_ ++ more), List.foldl_append, ← mergeExcludeDirs_eq]

/-- Of a name that is given twice, the first place counts; a name that differs in its case only, and
the empty name, are new. -/
example : mergeExcludeDirs ["b", ".git", ".Git", "a", "b", ""] =
    defaultExcludeDirs ++ ["b", ".Git", "a", ""] := by decide

end SecretScan.Config
