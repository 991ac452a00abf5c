import Mathlib
import SecretScan.Text.Blank

/-!
# Trimmed texts

A part of a text stands at its own place in the trimmed text exactly if it keeps clear of the blanks
that are trimmed off (`Blank.trimmed_keeps_iff`).  A text is trimmed if neither end of it is a blank
(`Blank.isTrimmed_iff`).
-/

namespace SecretScan.Blank

/-! ## 1. The blank code points -/

/-- The blank code points. -/
def points : List Nat := ranges.flatMap fun (lo, hi) => List.range' lo (hi + 1 - lo)

theorem mem_points_of_covers {n : Nat} (h : ranges.covers n = true) : n ∈ points := by
  -- on the ranges, which are sorted: a number below the first one is in none
  have hcovers : ∀ rs : CodeRanges, rs.covers n = true →
      n ∈ rs.flatMap fun (lo, hi) => List.range' lo (hi + 1 - lo) := by
    intro rs hn
    induction rs with
    | nil => cases hn
    | cons r rs ih =>
      obtain ⟨lo, hi⟩ := r
      rw [CodeRanges.covers] at hn
      split_ifs at hn with hlo
      rw [Bool.or_eq_true, decide_eq_true_eq] at hn
      rw [List.flatMap_cons, List.mem_append, List.mem_range'_1]
      rcases hn with hn | hn
      · exact .inl (by omega)
      · exact .inr (ih hn)
  exact hcovers ranges h

theorem mem_points {c : Char} (h : isBlank c = true) : c.toNat ∈ points :=
  mem_points_of_covers h

/-! ## 2. The ends of a trimmed text -/

variable {before part after text : List Char} {c : Char}

theorem trimEnd_eq (text : List Char) : trimEnd text = (trimStart text.reverse).reverse := rfl

theorem not_isBlank_of_head?_trimStart (h : (trimStart text).head? = some c) :
    isBlank c = false := by
  have hnot := List.head?_dropWhile_not isBlank text
  unfold trimStart at h
  rw [h] at hnot
  exact hnot

theorem trimEnd_prefix (text : List Char) : trimEnd text <+: text := by
  rw [trimEnd_eq, ← List.reverse_suffix, List.reverse_reverse]
  exact List.dropWhile_suffix _

theorem not_isBlank_of_head?_trimmed (h : (trimEnd (trimStart text)).head? = some c) :
    isBlank c = false := by
  obtain ⟨rest, hrest⟩ := trimEnd_prefix (trimStart text)
  have hhead : (trimStart text).head? = some c := by
    rw [← hrest, List.head?_append, h]
    rfl
  exact not_isBlank_of_head?_trimStart hhead

theorem not_isBlank_of_getLast?_trimmed (h : (trimEnd (trimStart text)).getLast? = some c) :
    isBlank c = false := by
  rw [trimEnd_eq, List.getLast?_reverse] at h
  exact not_isBlank_of_head?_trimStart h

/-! ## 3. Parts of a text -/

/-- A part does not begin with a blank that is trimmed off the start of the text. -/
def ClearOfStart (before part : List Char) : Prop :=
  ¬ ((∀ c ∈ before, isBlank c = true) ∧ ∃ c, part.head? = some c ∧ isBlank c = true)

/-- A part does not end with a blank that is trimmed off the end of the text. -/
def ClearOfEnd (part after : List Char) : Prop :=
  ¬ ((∀ c ∈ after, isBlank c = true) ∧ ∃ c, part.getLast? = some c ∧ isBlank c = true)

theorem ClearOfStart.of_head? (h : part.head? = some c) (hc : isBlank c = false) :
    ClearOfStart before part := by
  rintro ⟨-, d, hd, hblank⟩
  rw [← Option.some.inj (h.symm.trans hd), hc] at hblank
  cases hblank

theorem ClearOfEnd.of_getLast? (h : part.getLast? = some c) (hc : isBlank c = false) :
    ClearOfEnd part after := by
  rintro ⟨-, d, hd, hblank⟩
  rw [← Option.some.inj (h.symm.trans hd), hc] at hblank
  cases hblank

theorem trimStart_append (hne : part ≠ []) (h : ClearOfStart before part) :
    trimStart (before ++ (part ++ after)) = trimStart before ++ (part ++ after) := by
  unfold trimStart
  rw [List.dropWhile_append]
  split
  -- nothing is left of what stands before the part, so the part begins the text
  next hempty =>
    rw [List.isEmpty_iff] at hempty
    rw [hempty, List.nil_append]
    obtain ⟨c, part, rfl⟩ := List.exists_cons_of_ne_nil hne
    have hblank := List.dropWhile_eq_nil_iff.mp hempty
    have hc : ¬ isBlank c = true := fun hc => h ⟨hblank, c, rfl, hc⟩
    exact List.dropWhile_cons_of_neg hc
  next => rfl

theorem trimEnd_append (hne : part ≠ []) (h : ClearOfEnd part after) :
    trimEnd ((before ++ part) ++ after) = (before ++ part) ++ trimEnd after := by
  -- the end of a text is the start of the reversed text
  have hclear : ClearOfStart after.reverse part.reverse := by
    unfold ClearOfEnd at h
    unfold ClearOfStart
    simpa only [List.mem_reverse, List.head?_reverse] using h
  rw [trimEnd_eq, trimEnd_eq, List.reverse_append, List.reverse_append,
    trimStart_append (by simpa using hne) hclear]
  simp

/-- A part of a text stands in the trimmed text at its own place exactly if it is clear of what is
trimmed off. -/
theorem trimmed_keeps_iff (hne : part ≠ []) :
    (∃ left right, trimEnd (trimStart (before ++ part ++ after)) = left ++ part ++ right ∧
        left <:+ before ∧ right <+: after) ↔
      ClearOfStart before part ∧ ClearOfEnd part after := by
  constructor
  · rintro ⟨left, right, htrim, hleft, hright⟩
    constructor
    · rintro ⟨hblank, c, hc, hcblank⟩
      -- the trimmed text would begin with a blank
      obtain ⟨d, hd, hdblank⟩ : ∃ d, (left ++ part ++ right).head? = some d ∧ isBlank d = true := by
        rw [List.append_assoc, List.head?_append, List.head?_append, hc]
        cases hfirst : left.head? with
        | none => exact ⟨c, rfl, hcblank⟩
        | some d => exact ⟨d, rfl, hblank d (hleft.mem (List.mem_of_mem_head? hfirst))⟩
      rw [← htrim] at hd
      rw [not_isBlank_of_head?_trimmed hd] at hdblank
      cases hdblank
    · rintro ⟨hblank, c, hc, hcblank⟩
      -- it would end with one
      obtain ⟨d, hd, hdblank⟩ :
          ∃ d, (left ++ part ++ right).getLast? = some d ∧ isBlank d = true := by
        rw [List.getLast?_append, List.getLast?_append, hc]
        cases hlast : right.getLast? with
        | none => exact ⟨c, rfl, hcblank⟩
        | some d => exact ⟨d, rfl, hblank d (hright.mem (List.mem_of_getLast? hlast))⟩
      rw [← htrim] at hd
      rw [not_isBlank_of_getLast?_trimmed hd] at hdblank
      cases hdblank
  · rintro ⟨hstart, hend⟩
    refine ⟨trimStart before, trimEnd after, ?_, List.dropWhile_suffix _, trimEnd_prefix after⟩
    rw [List.append_assoc, trimStart_append hne hstart, ← List.append_assoc,
      trimEnd_append hne hend]

/-! ## 4. Texts without blanks at their ends -/

/-- Nothing is trimmed off a text. -/
def IsTrimmed (text : List Char) : Prop := trimEnd (trimStart text) = text

theorem isTrimmed_iff : IsTrimmed text ↔ (∀ c, text.head? = some c → isBlank c = false) ∧
    ∀ c, text.getLast? = some c → isBlank c = false := by
  constructor
  · intro h
    unfold IsTrimmed at h
    refine ⟨fun c hc => ?_, fun c hc => ?_⟩
    · rw [← h] at hc
      exact not_isBlank_of_head?_trimmed hc
    · rw [← h] at hc
      exact not_isBlank_of_getLast?_trimmed hc
  · rintro ⟨hhead, hlast⟩
    -- nothing is dropped where the first character is solid; the end is the start of the reverse
    have hkeep : ∀ {cs : List Char}, (∀ c, cs.head? = some c → isBlank c = false) →
        trimStart cs = cs := by
      intro cs hcs
      cases cs with
      | nil => rfl
      | cons c cs => exact List.dropWhile_cons_of_neg (by simp [hcs c rfl])
    have hreverse : ∀ c, text.reverse.head? = some c → isBlank c = false := by
      simpa only [List.head?_reverse] using hlast
    rw [IsTrimmed, hkeep hhead, trimEnd_eq, hkeep hreverse, List.reverse_reverse]

theorem isTrimmed_trimmed (text : List Char) : IsTrimmed (trimEnd (trimStart text)) :=
  isTrimmed_iff.mpr ⟨fun _ => not_isBlank_of_head?_trimmed, fun _ => not_isBlank_of_getLast?_trimmed⟩

/-- A part with solid ends may take the place of another one. -/
theorem IsTrimmed.replace {new : List Char} {d : Char}
    (h : IsTrimmed (before ++ part ++ after)) (hhead : new.head? = some c) (hc : isBlank c = false)
    (hlast : new.getLast? = some d) (hd : isBlank d = false) :
    IsTrimmed (before ++ new ++ after) := by
  obtain ⟨hfirst, hfinal⟩ := isTrimmed_iff.mp h
  refine isTrimmed_iff.mpr ⟨fun e he => ?_, fun e he => ?_⟩
  · rw [List.append_assoc, List.head?_append] at he hfirst
    -- the first character is one of `before`, or the first one of the new part
    cases hbefore : before.head? with
    | none =>
      rw [hbefore, List.head?_append, hhead] at he
      cases he
      exact hc
    | some first =>
      rw [hbefore] at he hfirst
      exact hfirst e he
  · rw [List.getLast?_append] at he hfinal
    -- the last character is one of `after`, or the last one of the new part
    cases hafter : after.getLast? with
    | none =>
      rw [hafter, List.getLast?_append, hlast] at he
      cases he
      exact hd
    | some final =>
      rw [hafter] at he hfinal
      exact hfinal e he

end SecretScan.Blank
