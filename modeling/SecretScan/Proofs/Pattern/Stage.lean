import SecretScan.Pattern.Sources
import SecretScan.Proofs.Pattern.Alternation
import SecretScan.Proofs.Pattern.Unescape
import SecretScan.Proofs.Regex.Matches

/-!
# The expression of a stage

A stage that compiles is the ordered choice of its lines, if each line stands for an expression on
its own.  A line that stands for none need not keep the stage from compiling, because parentheses of
one line can be closed in another one; it does so exactly if the reader comes to the parenthesis
after each line with no group open.
-/

namespace SecretScan

open Regex

/-- The expression that a line stands for on its own. -/
def Pattern.readLine (line : List Char) : Except ReadError Regex :=
  Regex.read (Pattern.unescape line)

namespace Matcher

variable {stage : Stage} {lines : List (List Char)} {m : Matcher}

/-! ## 1. The text of a stage -/

theorem ofLines_filter (stage : Stage) (lines : List (List Char)) :
    ofLines stage (lines.filter Pattern.isUsable) = ofLines stage lines := by
  unfold ofLines
  rw [List.filter_filter]
  simp only [Bool.and_self]

theorem ofLines_usable (hne : lines ≠ []) (husable : ∀ line ∈ lines, Pattern.isUsable line = true) :
    ofLines stage lines = (Regex.read (Pattern.alternation (lines.map Pattern.unescape))).map
      fun regex => ⟨stage, some regex, lines.length⟩ := by
  have hfilter : lines.filter Pattern.isUsable = lines := List.filter_eq_self.mpr husable
  unfold ofLines
  rw [hfilter, ← Pattern.unescape_alternation]
  obtain ⟨line, lines, rfl⟩ := List.exists_cons_of_ne_nil hne
  show (Regex.read (Pattern.unescape (Pattern.alternation (line :: lines))) >>= _) = _
  cases Regex.read (Pattern.unescape (Pattern.alternation (line :: lines))) <;> rfl

theorem newline_notMem_unescape (h : ∀ line ∈ lines, '\n' ∉ line) :
    ∀ line ∈ lines.map Pattern.unescape, '\n' ∉ line := by
  intro line hline
  obtain ⟨line, hmem, rfl⟩ := List.mem_map.mp hline
  exact fun hnewline => h line hmem (Pattern.mem_of_mem_unescape hnewline)

/-- A stage that compiles has the choice of what its lines stand for as its expression. -/
theorem regex_of_lines {rs : List Regex} (hne : lines ≠ [])
    (husable : ∀ line ∈ lines, Pattern.isUsable line = true)
    (hnewline : ∀ line ∈ lines, '\n' ∉ line)
    (hlines : List.Forall₂ (fun line r => Pattern.readLine line = .ok r) lines rs)
    (hm : ofLines stage lines = .ok m) : m.regex = some (Expr.choice rs) := by
  rw [ofLines_usable hne husable] at hm
  cases hread : Regex.read (Pattern.alternation (lines.map Pattern.unescape)) with
  | error e =>
    rw [hread] at hm
    cases hm
  | ok r =>
    rw [hread] at hm
    cases hm
    have hread' : List.Forall₂ (fun line r => Regex.read line = .ok r)
        (lines.map Pattern.unescape) rs := List.forall₂_map_left_iff.mpr hlines
    have hseparate := Pattern.separate_of_read hread' (newline_notMem_unescape hnewline) hread
    obtain ⟨rs', hrs', rfl⟩ := Pattern.read_alternation (by simpa using hne) hseparate hread
    -- a line stands for one expression only
    have hone : Relator.RightUnique fun line r => Regex.read line = .ok r :=
      fun line r r' h h' => Except.ok.inj (h.symm.trans h')
    rw [List.right_unique_forall₂' hone hrs' hread']

/-! ## 2. What a stage matches -/

/-- A stage behaves as the ordered choice of its lines: it matches a text if some line does, and it
finds the earliest of their matches, of those that start together the one of the line that comes
first. -/
theorem ofLines_orderedChoice {rs : List Regex} (hne : lines ≠ [])
    (husable : ∀ line ∈ lines, Pattern.isUsable line = true)
    (hnewline : ∀ line ∈ lines, '\n' ∉ line)
    (hlines : List.Forall₂ (fun line r => Pattern.readLine line = .ok r) lines rs)
    (hm : ofLines stage lines = .ok m) (text : List Char) :
    (m.isMatch text = true ↔ ∃ r ∈ rs, r.matchesIn text = true) ∧
      (∃ regex, m.regex = some regex ∧
        ∀ span, regex.search text = some span ↔ ∃ i, Earliest rs text i span) ∧
      ∀ found, m.find text = some found ↔
        ∃ i start length, Earliest rs text i (start, length) ∧
          found = (text.drop start).take length := by
  have hrs : rs ≠ [] := by
    rintro rfl
    cases hlines
    exact hne rfl
  -- the stage is the choice of what its lines stand for
  have hregex := regex_of_lines hne husable hnewline hlines hm
  refine ⟨?_, ⟨_, hregex, fun span => search_choice hrs⟩, fun found => ?_⟩
  · simp only [isMatch, hregex]
    exact matchesIn_choice hrs
  · simp only [find, hregex, Regex.find, Option.map_eq_some_iff]
    constructor
    · rintro ⟨⟨start, length⟩, hsearch, rfl⟩
      obtain ⟨i, hi⟩ := (search_choice hrs).mp hsearch
      exact ⟨i, start, length, hi, rfl⟩
    · rintro ⟨i, start, length, hi, rfl⟩
      exact ⟨(start, length), (search_choice hrs).mpr ⟨i, hi⟩, rfl⟩

/-- Neither the flag nor the bar of a line reaches into the other one. -/
theorem ofLines_orderedChoice_flagged :
    ∃ rs m, List.Forall₂ (fun line r => Pattern.readLine line = .ok r)
        ["(?i)ab".toList, "b|^c".toList] rs ∧
      ofLines .fast ["(?i)ab".toList, "b|^c".toList] = .ok m ∧
      (m.isMatch "xAB".toList = true ↔ ∃ r ∈ rs, r.matchesIn "xAB".toList = true) ∧
      ∀ found, m.find "xAB".toList = some found ↔
        ∃ i start length, Earliest rs "xAB".toList i (start, length) ∧
          found = ("xAB".toList.drop start).take length := by
  have hlines : List.Forall₂ (fun line r => Pattern.readLine line = .ok r)
      ["(?i)ab".toList, "b|^c".toList] [_, _] := .cons rfl (.cons rfl .nil)
  have hm : ofLines .fast ["(?i)ab".toList, "b|^c".toList] = .ok _ := rfl
  have h := ofLines_orderedChoice (by decide) (by decide) (by decide) hlines hm "xAB".toList
  exact ⟨_, _, hlines, hm, h.1, h.2.2⟩

/-! ## 3. Malformed lines -/

/-- Every line of a stage is read up to the parenthesis that the stage puts after it, with no group
open there. -/
def Separate (lines : List (List Char)) : Prop := Pattern.Separate (lines.map Pattern.unescape)

theorem exists_forall₂_readLine_iff :
    (∃ rs, List.Forall₂ (fun line r => Pattern.readLine line = .ok r) lines rs) ↔
      ∀ line ∈ lines, ∃ r, Pattern.readLine line = .ok r := by
  induction lines with
  | nil => exact ⟨fun _ => by simp, fun _ => ⟨[], .nil⟩⟩
  | cons line lines ih =>
    rw [List.forall_mem_cons, ← ih]
    constructor
    · rintro ⟨_, hrs⟩
      cases hrs with
      | cons hline hlines => exact ⟨⟨_, hline⟩, _, hlines⟩
    · rintro ⟨⟨r, hline⟩, rs, hlines⟩
      exact ⟨r :: rs, .cons hline hlines⟩

/-- A stage that compiles has no malformed line exactly if its lines are read one by one. -/
theorem forall_valid_iff_separate (husable : ∀ line ∈ lines, Pattern.isUsable line = true)
    (hnewline : ∀ line ∈ lines, '\n' ∉ line) (hm : ofLines stage lines = .ok m) :
    (∀ line ∈ lines, ∃ r, Pattern.readLine line = .ok r) ↔ Separate lines := by
  by_cases hne : lines = []
  · subst hne
    simp [Separate, Pattern.Separate]
  rw [ofLines_usable hne husable] at hm
  cases hread : Regex.read (Pattern.alternation (lines.map Pattern.unescape)) with
  | error e =>
    rw [hread] at hm
    cases hm
  | ok r =>
    constructor
    · -- lines that are read on their own are not torn apart by an alternation that can be read
      intro hvalid
      obtain ⟨rs, hrs⟩ := exists_forall₂_readLine_iff.mpr hvalid
      exact Pattern.separate_of_read (List.forall₂_map_left_iff.mpr hrs)
        (newline_notMem_unescape hnewline) hread
    · intro hseparate
      obtain ⟨rs, hrs, -⟩ := Pattern.read_alternation (by simpa using hne) hseparate hread
      exact exists_forall₂_readLine_iff.mp ⟨rs, List.forall₂_map_left_iff.mp hrs⟩

/-- A stage with a malformed line is refused exactly if it is refused anyway or its lines are read
one by one; and then so is a stage that is compiled from sources with these lines. -/
theorem malformed_refused_iff (husable : ∀ line ∈ lines, Pattern.isUsable line = true)
    (hnewline : ∀ line ∈ lines, '\n' ∉ line) :
    (((∃ line ∈ lines, ∀ r, Pattern.readLine line ≠ .ok r) → ∃ e, ofLines stage lines = .error e) ↔
        ((∃ e, ofLines stage lines = .error e) ∨ Separate lines)) ∧
      ∀ files sources texts, List.mapM (Pattern.Source.lines files) sources = .ok texts →
        texts.flatten = lines → ∀ e, ofLines stage lines = .error e →
        ofSources files stage sources = .error (.invalid stage e) := by
  refine ⟨?_, fun files sources texts htexts hflatten e he => ?_⟩
  · -- only a stage that compiles can hide a malformed line
    cases hm : ofLines stage lines with
    | error e => exact ⟨fun _ => .inl ⟨e, rfl⟩, fun _ _ => ⟨e, rfl⟩⟩
    | ok m =>
      have hiff := forall_valid_iff_separate husable hnewline hm
      constructor
      · intro hclaim
        refine .inr (hiff.mp fun line hline => ?_)
        by_contra hmalformed
        obtain ⟨e, he⟩ := hclaim ⟨line, hline, fun r hr => hmalformed ⟨r, hr⟩⟩
        cases he
      · rintro (⟨e, he⟩ | hseparate) ⟨line, hline, hmalformed⟩
        · cases he
        · obtain ⟨r, hr⟩ := hiff.mpr hseparate line hline
          exact absurd hr (hmalformed r)
  · unfold ofSources
    rw [htexts]
    show (ofLines stage texts.flatten).mapError _ = _
    rw [hflatten, he]
    rfl

/-- A bracket that is not closed swallows the parenthesis, and the stage is refused. -/
theorem malformed_refused_unclosed :
    (∃ e, ofLines .strict ["[a".toList] = .error e) ∧
      ((∃ line ∈ ["[a".toList], ∀ r, Pattern.readLine line ≠ .ok r) →
        ∃ e, ofLines .strict ["[a".toList] = .error e) := by
  have herror : ∃ e, ofLines .strict ["[a".toList] = .error e := ⟨_, rfl⟩
  have husable : ∀ line ∈ ["[a".toList], Pattern.isUsable line = true := by decide
  have hnewline : ∀ line ∈ ["[a".toList], '\n' ∉ line := by decide
  exact ⟨herror, (malformed_refused_iff husable hnewline).1.mpr (.inl herror)⟩

/-- A line that closes the parenthesis before it and opens the one after it compiles, although it
stands for no expression. -/
theorem unbalanced_line_compiles :
    (∃ line ∈ ["a)|(b".toList], ∀ r, Pattern.readLine line ≠ .ok r) ∧
      ∃ m, ofLines .strict ["a)|(b".toList] = .ok m := by
  refine ⟨⟨"a)|(b".toList, List.mem_singleton_self _, fun r h => ?_⟩, ⟨_, rfl⟩⟩
  have herror : Pattern.readLine "a)|(b".toList = .error .unopenedGroup := by decide
  rw [herror] at h
  cases h

end Matcher

end SecretScan
