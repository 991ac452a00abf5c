import Mathlib
import SecretScan.Text.Line

/-!
# Lines between separators

A piece without a separator is taken off the front of a text together with the separator after it.
-/

namespace SecretScan.Line

variable {α : Type} [DecidableEq α] {separator : α}

theorem extend_separator (pieces : List (List α)) :
    extend separator separator pieces = [] :: pieces := if_pos rfl

theorem split_ne_nil (separator : α) (xs : List α) : split separator xs ≠ [] := by
  cases xs with
  | nil => exact List.cons_ne_nil [] []
  | cons a xs =>
    rw [split, List.foldr_cons]
    unfold extend
    split
    · exact List.cons_ne_nil [] _
    · split <;> exact List.cons_ne_nil _ _

theorem split_cons (separator a : α) (xs : List α) :
    split separator (a :: xs) = extend separator a (split separator xs) := List.foldr_cons ..

theorem split_eq_splitOn (separator : α) (xs : List α) :
    split separator xs = xs.splitOn separator := by
  induction xs with
  | nil => rfl
  | cons a xs ih =>
    obtain ⟨piece, rest, hpieces⟩ := List.exists_cons_of_ne_nil (split_ne_nil separator xs)
    rw [split_cons, List.splitOn, List.splitOnP_cons_eq_if_modifyHead, ← List.splitOn, ← ih,
      hpieces, extend]
    by_cases ha : a = separator
    · rw [if_pos ha, if_pos (beq_iff_eq.mpr ha)]
    · rw [if_neg ha, if_neg (fun h => ha (beq_iff_eq.mp h))]
      rfl

/-- A cut is made at every separator. -/
theorem split_append (xs ys : List α) :
    split separator (xs ++ separator :: ys) = split separator xs ++ split separator ys := by
  rw [split_eq_splitOn, split_eq_splitOn, split_eq_splitOn, List.splitOn]
  exact List.splitOnP_append_cons xs ys (beq_self_eq_true separator)

/-- Joined texts are cut into the pieces of all of them. -/
theorem split_intercalate {texts : List (List α)} (hne : texts ≠ []) :
    split separator ([separator].intercalate texts) = texts.flatMap (split separator) := by
  induction texts with
  | nil => exact absurd rfl hne
  | cons text texts ih =>
    cases texts with
    | nil => rw [List.intercalate_singleton, List.flatMap_singleton]
    | cons next texts =>
      rw [List.intercalate_cons_cons, List.append_assoc, List.singleton_append, split_append,
        ih (List.cons_ne_nil next texts)]
      exact List.flatMap_cons.symm

/-- Joined pieces are cut apart again. -/
theorem split_intercalate_of_notMem {pieces : List (List α)} (hne : pieces ≠ [])
    (h : ∀ piece ∈ pieces, separator ∉ piece) :
    split separator ([separator].intercalate pieces) = pieces := by
  rw [split_eq_splitOn]
  exact List.splitOn_intercalate separator h hne

/-- A piece without a separator grows the first piece of what comes after it. -/
theorem foldr_extend {piece : List α} (h : separator ∉ piece) (first : List α)
    (pieces : List (List α)) :
    piece.foldr (extend separator) (first :: pieces) = (piece ++ first) :: pieces := by
  induction piece with
  | nil => rfl
  | cons a piece ih =>
    have ha : a ≠ separator := fun heq => h (heq ▸ List.mem_cons_self)
    rw [List.foldr_cons, ih (fun hmem => h (List.mem_cons_of_mem _ hmem)), extend, if_neg ha,
      List.cons_append]

theorem split_append_cons {piece : List α} (h : separator ∉ piece) (rest : List α) :
    split separator (piece ++ separator :: rest) = piece :: split separator rest := by
  rw [split, List.foldr_append, List.foldr_cons, extend_separator, foldr_extend h,
    List.append_nil, split]

/-- Pieces that all end with a separator are followed by an empty one. -/
theorem split_flatMap_concat {pieces : List (List α)} (h : ∀ piece ∈ pieces, separator ∉ piece) :
    split separator (pieces.flatMap (· ++ [separator])) = pieces ++ [[]] := by
  induction pieces with
  | nil => rfl
  | cons piece pieces ih =>
    obtain ⟨hpiece, hpieces⟩ := List.forall_mem_cons.mp h
    rw [List.flatMap_cons, List.append_assoc, List.singleton_append, split_append_cons hpiece,
      ih hpieces, List.cons_append]

theorem terminated_append_cons {piece : List α} (h : separator ∉ piece) (rest : List α) :
    terminated separator (piece ++ separator :: rest) = piece :: terminated separator rest := by
  rw [terminated, List.foldr_append, List.foldr_cons, extend_separator, foldr_extend h,
    List.append_nil, terminated]

theorem terminated_eq_singleton {piece : List α} (h : separator ∉ piece) (hne : piece ≠ []) :
    terminated separator piece = [piece] := by
  obtain ⟨front, a, rfl⟩ := List.eq_nil_or_concat piece |>.resolve_left hne
  rw [List.concat_eq_append] at h ⊢
  have ha : a ≠ separator := fun heq => h (by simp [heq])
  have hlast : extend separator a [] = [[a]] := if_neg ha
  rw [terminated, List.foldr_append, List.foldr_cons, List.foldr_nil, hlast,
    foldr_extend fun hmem => h (List.mem_append_left _ hmem)]

theorem terminated_flatMap_concat {pieces : List (List α)}
    (h : ∀ piece ∈ pieces, separator ∉ piece) :
    terminated separator (pieces.flatMap (· ++ [separator])) = pieces := by
  induction pieces with
  | nil => rfl
  | cons piece pieces ih =>
    obtain ⟨hpiece, hpieces⟩ := List.forall_mem_cons.mp h
    rw [List.flatMap_cons, List.append_assoc, List.singleton_append, terminated_append_cons hpiece,
      ih hpieces]

/-- Lines are made of what is cut, without the separators. -/
theorem of_mem_terminated {xs piece : List α} (h : piece ∈ terminated separator xs) {a : α}
    (ha : a ∈ piece) : a ∈ xs ∧ a ≠ separator := by
  induction xs generalizing piece with
  | nil => cases h
  | cons b xs ih =>
    have hrest : ∀ {line : List α}, line ∈ terminated separator xs → a ∈ line →
        a ∈ b :: xs ∧ a ≠ separator := fun hline hmem =>
      (ih hline hmem).imp (List.mem_cons_of_mem b) id
    rw [terminated, List.foldr_cons, ← terminated] at h
    -- the first character opens a line of its own or is put in front of the first line
    unfold extend at h
    split at h
    next =>
      rcases List.mem_cons.mp h with rfl | h
      · cases ha
      · exact hrest h ha
    next hb =>
      split at h
      next =>
        obtain rfl := List.mem_singleton.mp h
        obtain rfl := List.mem_singleton.mp ha
        exact ⟨List.mem_cons_self, hb⟩
      next first lines hlines =>
        rw [hlines] at hrest
        rcases List.mem_cons.mp h with rfl | h
        · rcases List.mem_cons.mp ha with rfl | ha
          · exact ⟨List.mem_cons_self, hb⟩
          · exact hrest List.mem_cons_self ha
        · exact hrest (List.mem_cons_of_mem first h) ha

theorem dropFinal_of_notMem {mark : α} {xs : List α} (h : mark ∉ xs) : dropFinal mark xs = xs :=
  if_neg fun hlast => h (List.mem_of_getLast? hlast)

/-- One mark at most is taken off the end. -/
theorem dropFinal_concat (mark a : α) (xs : List α) :
    dropFinal mark (xs ++ [a]) = if a = mark then xs else xs ++ [a] := by
  rw [dropFinal, List.getLast?_concat, List.dropLast_concat]
  exact if_congr Option.some_inj rfl rfl

end SecretScan.Line
