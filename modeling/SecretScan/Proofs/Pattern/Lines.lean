import SecretScan.Proofs.Pattern.Stage

/-!
# The lines of a stage

Lines that are no patterns may stand anywhere in the list of a stage (`Matcher.ofLines_padded`).  A
stage of valid patterns matches a text exactly if one of them does
(`Matcher.isMatch_iff_exists_line`), so a longer stage matches no less.
-/

namespace SecretScan

/-! ## 1. Patterns and other lines -/

namespace Pattern

/-- Comments and empty lines are put between some lines. -/
inductive Padded : List (List Char) → List (List Char) → Prop
  | nil : Padded [] []
  | line (line : List Char) {lines padded : List (List Char)} (h : Padded lines padded) :
    Padded (line :: lines) (line :: padded)
  | comment (text : List Char) {lines padded : List (List Char)} (h : Padded lines padded) :
    Padded lines (('#' :: text) :: padded)
  | empty {lines padded : List (List Char)} (h : Padded lines padded) : Padded lines ([] :: padded)

theorem Padded.refl (lines : List (List Char)) : Padded lines lines := by
  induction lines with
  | nil => exact .nil
  | cons line lines ih => exact .line line ih

theorem Padded.filter_isUsable {lines padded : List (List Char)} (h : Padded lines padded) :
    padded.filter isUsable = lines.filter isUsable := by
  induction h with
  | nil => rfl
  | line line _ ih => rw [List.filter_cons, List.filter_cons, ih]
  | comment text _ ih =>
    have hcomment : ¬ isUsable ('#' :: text) = true := Bool.false_ne_true
    rw [List.filter_cons_of_neg hcomment, ih]
  | empty _ ih =>
    have hempty : ¬ isUsable [] = true := Bool.false_ne_true
    rw [List.filter_cons_of_neg hempty, ih]

/-- All patterns among some lines are free of line feeds and stand for an expression on their own. -/
def AllValid (lines : List (List Char)) : Prop :=
  ∀ line ∈ lines, isUsable line = true → '\n' ∉ line ∧ ∃ r, readLine line = .ok r

theorem AllValid.of_append {lines more : List (List Char)} (h : AllValid (lines ++ more)) :
    AllValid lines := fun line hline => h line (List.mem_append_left more hline)

/-- The pattern in a line matches somewhere in a text. -/
def MatchesIn (text line : List Char) : Prop :=
  ∃ r, readLine line = .ok r ∧ r.matchesIn text = true

theorem exists_matchesIn_iff {lines : List (List Char)} {rs : List Regex} {text : List Char}
    (h : List.Forall₂ (fun line r => readLine line = .ok r) lines rs) :
    (∃ r ∈ rs, r.matchesIn text = true) ↔ ∃ line ∈ lines, MatchesIn text line := by
  induction h with
  | nil => simp
  | @cons line r lines rs hline _ ih =>
    have hfirst : MatchesIn text line ↔ r.matchesIn text = true := by
      simp only [MatchesIn, hline, Except.ok.injEq, exists_eq_left']
    simp only [List.exists_mem_cons_iff, hfirst, ih]

end Pattern

/-! ## 2. What a stage matches -/

namespace Matcher

variable {stage : Stage} {lines : List (List Char)} {m : Matcher}

theorem ofLines_padded (stage : Stage) {lines padded : List (List Char)}
    (h : Pattern.Padded lines padded) : ofLines stage padded = ofLines stage lines := by
  rw [← ofLines_filter, h.filter_isUsable, ofLines_filter]

/-- A stage of valid patterns matches a text exactly if one of them does on its own. -/
theorem isMatch_iff_exists_line (hvalid : Pattern.AllValid lines)
    (hm : ofLines stage lines = .ok m) {text : List Char} :
    m.isMatch text = true ↔
      ∃ line ∈ lines.filter Pattern.isUsable, Pattern.MatchesIn text line := by
  rw [← ofLines_filter] at hm
  have hkept : ∀ line ∈ lines.filter Pattern.isUsable, Pattern.isUsable line = true ∧
      '\n' ∉ line ∧ ∃ r, Pattern.readLine line = .ok r := by
    intro line hline
    obtain ⟨hmem, husable⟩ := List.mem_filter.mp hline
    exact ⟨husable, hvalid line hmem husable⟩
  by_cases hne : lines.filter Pattern.isUsable = []
  · -- without patterns there is no expression
    rw [hne] at hm ⊢
    cases hm
    exact iff_of_false Bool.false_ne_true (by simp)
  · obtain ⟨rs, hrs⟩ := exists_forall₂_readLine_iff.mpr fun line hline => (hkept line hline).2.2
    have hregex := regex_of_lines hne (fun line hline => (hkept line hline).1)
      (fun line hline => (hkept line hline).2.1) hrs hm
    have hrsne : rs ≠ [] := by
      rintro rfl
      exact hne (List.forall₂_nil_right_iff.mp hrs)
    rw [← Pattern.exists_matchesIn_iff hrs, ← Regex.matchesIn_choice hrsne]
    simp only [isMatch, hregex]

/-- More valid patterns match no less. -/
theorem isMatch_append {more : List (List Char)} {m' : Matcher} {text : List Char}
    (hvalid : Pattern.AllValid (lines ++ more)) (hm : ofLines stage lines = .ok m)
    (hm' : ofLines stage (lines ++ more) = .ok m') (h : m.isMatch text = true) :
    m'.isMatch text = true := by
  obtain ⟨line, hline, hmatch⟩ := (isMatch_iff_exists_line hvalid.of_append hm).mp h
  refine (isMatch_iff_exists_line hvalid hm').mpr ⟨line, ?_, hmatch⟩
  rw [List.filter_append]
  exact List.mem_append_left _ hline

end Matcher

end SecretScan
