import SecretScan.Proofs.Pattern.BuiltIn
import SecretScan.Proofs.Regex.Containment
import SecretScan.Proofs.Regex.Extent
import SecretScan.Proofs.Scan.Content
import SecretScan.Proofs.Text.Blank

/-!
# Screens that lose nothing

Short lines and lines that the fast stage does not admit are not looked at by the strict stage.  If
what the strict stage finds is always longer than a short line, and needs what the fast stage looks
for, then the check of a line and the scan of a content are those of the strict and the exclude stage
alone.  The built-in stages are of this kind (`Matchers.builtIn_screens_lossless`).
-/

namespace SecretScan

theorem Matcher.find_eq_some_iff {m : Matcher} {text found : List Char} :
    m.find text = some found ↔ ∃ r, m.regex = some r ∧ r.find text = some found := by
  rw [find]
  cases m.regex <;> simp

namespace Matchers

variable {m : Matchers}

/-! ## 1. Lossless screens -/

/-- The secret in a line according to the strict and the exclude stage alone. -/
def extract (m : Matchers) (line : List Char) : Option (List Char) :=
  if m.exclude.isMatch line then none else m.strict.find line

/-- What the strict stage finds anywhere is a secret in a line that is not short, and the fast stage
admits the line. -/
def Lossless (m : Matchers) : Prop :=
  ∀ line found, m.strict.find line = some found →
    found ≠ [] ∧ shortLine < line.length ∧ m.fast.isMatch line = true

theorem Lossless.report_eq (h : m.Lossless) (line : List Char) : m.report line = m.extract line := by
  unfold report extract
  cases hfind : m.strict.find line with
  | none => simp
  | some found =>
    -- the screen admits the line, and there is no empty match to be dropped
    obtain ⟨hne, -, hfast⟩ := h line found hfind
    obtain ⟨c, secret, rfl⟩ := List.exists_cons_of_ne_nil hne
    rw [if_pos hfast]

/-- A line of few characters has no secret. -/
theorem Lossless.extract_eq_none (h : m.Lossless) {line : List Char}
    (hshort : line.length ≤ shortLine) : m.extract line = none := by
  unfold extract
  split
  · rfl
  · cases hfind : m.strict.find line with
    | none => rfl
    | some found => exact absurd (h line found hfind).2.1 (Nat.not_lt.mpr hshort)

theorem Lossless.check_eq (h : m.Lossless) (line : List Char) : m.check line = m.extract line := by
  unfold check
  split
  next hshort => exact (h.extract_eq_none ((Utf8.length_le_size line).trans hshort)).symm
  next => exact h.report_eq line

theorem Lossless.lineHit_eq (h : m.Lossless) (number : Nat) (raw : Bytes) :
    m.lineHit number raw = (m.extract (Utf8.decodeLossy raw)).map fun secret =>
      ⟨number, Utf8.decodeLossy raw, secret⟩ := by
  unfold lineHit
  split
  next hshort =>
    rw [h.extract_eq_none ((Utf8.length_decodeLossy_le raw).trans hshort), Option.map_none]
  next => rw [h.report_eq]

/-! ## 2. A check on compiled stages -/

/-- Whether the screens are seen to lose nothing, from the form of the expressions. -/
def isScreened (m : Matchers) : Bool :=
  m.strict.regex.all fun strict => shortLine < Regex.minLength strict &&
    m.fast.regex.any fun fast => Regex.needs (Regex.options fast) strict

theorem lossless_of_isScreened (h : m.isScreened = true) : m.Lossless := by
  intro line found hfind
  obtain ⟨strict, hstrict, hfound⟩ := Matcher.find_eq_some_iff.mp hfind
  rw [isScreened, hstrict, Option.all_some, Bool.and_eq_true, decide_eq_true_eq,
    Option.any_eq_true] at h
  obtain ⟨hlength, fast, hfast, hneeds⟩ := h
  have hlong : shortLine < found.length := hlength.trans_le (Regex.minLength_le_of_find hfound)
  obtain ⟨before, p, q, hline, -, hp, hmatch⟩ := Regex.exists_of_find_eq_some hfound
  refine ⟨List.ne_nil_of_length_pos (Nat.zero_lt_of_lt hlong), ?_, ?_⟩
  · rw [hline, List.length_append, List.length_append]
    omega
  · -- the fast stage matches inside the secret
    obtain ⟨f, hf, p', q', hlead, hinside⟩ := hmatch.of_needs hneeds
    rw [Matcher.isMatch, hfast]
    exact Regex.matchesIn_iff.mpr
      ⟨p', q', hp.trans hlead, Regex.matches_of_mem_options hf hinside⟩

/-! ## 3. The built-in stages -/

set_option maxRecDepth 100000 in
/-- The built-in lines compile, the built-in screens are seen to lose nothing, and no built-in secret
begins or ends with a blank. -/
theorem exists_builtIn : ∃ m, builtIn = .ok m ∧ m.isScreened = true ∧
    m.strict.regex.all (Regex.endsAvoid Blank.points) = true := by
  have hnil : ([] : List String).map String.toList = [] := rfl
  obtain ⟨m, hm, hcheck⟩ : ∃ m, builtIn = .ok m ∧
      (m.isScreened && m.strict.regex.all (Regex.endsAvoid Blank.points)) = true := by
    -- the characters are found by unification, and both checks run on them in the kernel
    apply exists_builtIn_of_any
    iterate 4
      · repeat apply Pattern.map_toList_cons
        exact hnil
    · decide +kernel
    · decide +kernel
  exact ⟨m, hm, Bool.and_eq_true_iff.mp hcheck⟩

/-- The screens of the built-in stages lose nothing. -/
theorem builtIn_screens_lossless :
    ∃ m, builtIn = .ok m ∧
      (∀ line found, m.strict.find line = some found →
        found ≠ [] ∧ shortLine < Utf8.size line ∧ m.fast.isMatch line = true) ∧
      (∀ line, m.check line = if m.exclude.isMatch line then none else m.strict.find line) ∧
      ∀ content, m.scan content = ((Line.terminated 0x0a content).zipIdx 1).filterMap fun x =>
        let line := Utf8.decodeLossy (Line.dropFinal 0x0d x.1)
        if m.exclude.isMatch line then none else (m.strict.find line).map (⟨x.2, line, ·⟩) := by
  obtain ⟨m, hm, hscreened, -⟩ := exists_builtIn
  have hlossless := lossless_of_isScreened hscreened
  refine ⟨m, hm, fun line found hfind => ?_, hlossless.check_eq, fun content => ?_⟩
  · -- a line has at least as many bytes as characters
    obtain ⟨hne, hlong, hfast⟩ := hlossless line found hfind
    exact ⟨hne, hlong.trans_le (Utf8.length_le_size line), hfast⟩
  · rw [scan_eq]
    refine List.filterMap_congr fun x _ => ?_
    rw [hlossless.lineHit_eq, extract]
    dsimp only
    split <;> rfl

end Matchers

end SecretScan
