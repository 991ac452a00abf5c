import Mathlib
import SecretScan.Pattern.Sources

/-!
# Why a stage does not compile

A stage is compiled after all its sources have been read.  So the first source that gives no lines
is the reason why there is no stage, even if the lines of sources before it are no expression
(`Matcher.ofSources_cases`).
-/

namespace SecretScan

variable {files : Node}

namespace Pattern.Source

/-- Why a source gives no lines: it cannot be read, or it is no text. -/
inductive Fault (files : Node) : Source → PatternError → Prop
  | unreadable {path : Path} {cause : AccessError} (hread : files.read path = .error cause) :
      Fault files (.file path) (.read path.text cause)
  | encoding {s : Source} {bytes : Bytes} {fault : Utf8.Fault}
      (hcontent : s.content files = .ok bytes) (hdecode : Utf8.decode bytes = .error fault) :
      Fault files s (.encoding s.name fault)

/-- The lines of a source that gives lines, and none of one that gives no lines. -/
def linesOrNone (files : Node) (s : Source) : List (List Char) :=
  match s.lines files with
  | .ok lines => lines
  | .error _ => []

theorem fault_of_content_eq_error {s : Source} {e : PatternError}
    (h : s.content files = .error e) : Fault files s e := by
  cases s with
  | data name bytes => cases h
  | file path =>
    rw [content] at h
    cases hread : files.read path with
    | ok bytes =>
      rw [hread] at h
      cases h
    | error cause =>
      rw [hread] at h
      cases h
      exact .unreadable hread

theorem lines_eq_error_iff {s : Source} {e : PatternError} :
    s.lines files = .error e ↔ Fault files s e := by
  constructor
  · intro h
    -- the content is read before it is decoded, and there is no other way to fail
    cases hcontent : s.content files with
    | error e' =>
      rw [lines, hcontent] at h
      cases h
      exact fault_of_content_eq_error hcontent
    | ok bytes =>
      cases hdecode : Utf8.decode bytes with
      | ok text =>
        rw [lines, hcontent] at h
        simp only [bind, Except.bind, hdecode] at h
        cases h
      | error fault =>
        rw [lines, hcontent] at h
        simp only [bind, Except.bind, hdecode] at h
        cases h
        exact .encoding hcontent hdecode
  · intro h
    cases h with
    | unreadable hread =>
      rw [lines, content, hread]
      rfl
    | encoding hcontent hdecode =>
      rw [lines, hcontent]
      simp only [bind, Except.bind, hdecode]
      rfl

/-- The first fault of some sources: the sources before it give lines. -/
def FirstFault (files : Node) (sources : List Source) (e : PatternError) : Prop :=
  ∃ before s after, sources = before ++ s :: after ∧
    (∀ earlier ∈ before, ∀ e', ¬ Fault files earlier e') ∧ Fault files s e

theorem not_firstFault_nil {e : PatternError} : ¬ FirstFault files [] e := by
  rintro ⟨before, s, after, heq, -⟩
  simp at heq

theorem firstFault_cons {s : Source} {sources : List Source} {e : PatternError} :
    FirstFault files (s :: sources) e ↔
      Fault files s e ∨ (∀ e', ¬ Fault files s e') ∧ FirstFault files sources e := by
  constructor
  · rintro ⟨before, s', after, heq, hbefore, hfault⟩
    -- either the first source is at fault, or it is one of those before the fault
    cases before with
    | nil =>
      cases heq
      exact .inl hfault
    | cons first before =>
      cases heq
      rw [List.forall_mem_cons] at hbefore
      exact .inr ⟨hbefore.1, before, s', after, rfl, hbefore.2, hfault⟩
  · rintro (hfault | ⟨hnone, before, s', after, rfl, hbefore, hfault⟩)
    · exact ⟨[], s, sources, rfl, fun _ h => (nomatch h), hfault⟩
    · exact ⟨s :: before, s', after, rfl, List.forall_mem_cons.mpr ⟨hnone, hbefore⟩, hfault⟩

/-- Reading the sources stops at the first fault. -/
theorem mapM_lines (files : Node) (sources : List Source) :
    (∃ e, sources.mapM (·.lines files) = .error e ∧ FirstFault files sources e) ∨
    (∃ texts, sources.mapM (·.lines files) = .ok texts ∧
      texts.flatten = sources.flatMap (linesOrNone files) ∧
      ∀ e, ¬ FirstFault files sources e) := by
  -- the induction is on the sources: a fault of the first one comes before all others
  induction sources with
  | nil =>
    exact .inr ⟨[], rfl, rfl, fun _ => not_firstFault_nil⟩
  | cons s sources ih =>
    cases hlines : s.lines files with
    | error e =>
      refine .inl ⟨e, ?_, firstFault_cons.mpr (.inl (lines_eq_error_iff.mp hlines))⟩
      rw [List.mapM_cons, hlines]
      rfl
    | ok text =>
      have hnone : ∀ e', ¬ Fault files s e' := by
        intro e' hfault
        rw [lines_eq_error_iff.mpr hfault] at hlines
        cases hlines
      rcases ih with ⟨e, hmap, hfault⟩ | ⟨texts, hmap, hflatten, hsources⟩
      · refine .inl ⟨e, ?_, firstFault_cons.mpr (.inr ⟨hnone, hfault⟩)⟩
        rw [List.mapM_cons, hlines, hmap]
        rfl
      · refine .inr ⟨text :: texts, ?_, ?_, fun e hfault => ?_⟩
        · rw [List.mapM_cons, hlines, hmap]
          rfl
        · rw [List.flatten_cons, List.flatMap_cons, hflatten, linesOrNone, hlines]
        · rcases firstFault_cons.mp hfault with hhere | ⟨-, hlater⟩
          · exact hnone e hhere
          · exact hsources e hlater

end Pattern.Source

open Pattern.Source

/-- A stage fails with the first fault of its sources.  If they have none, then it is what the lines
of all its sources together are compiled to. -/
theorem Matcher.ofSources_cases (files : Node) (stage : Stage) (sources : List Pattern.Source) :
    (∃ e, Matcher.ofSources files stage sources = .error e ∧ FirstFault files sources e) ∨
    ((∀ e, ¬ FirstFault files sources e) ∧ Matcher.ofSources files stage sources =
      (Matcher.ofLines stage (sources.flatMap (linesOrNone files))).mapError (.invalid stage)) := by
  rw [Matcher.ofSources]
  rcases mapM_lines files sources with ⟨e, hmap, hfault⟩ | ⟨texts, hmap, hflatten, hnone⟩
  · refine .inl ⟨e, ?_, hfault⟩
    rw [hmap]
    rfl
  · refine .inr ⟨hnone, ?_⟩
    rw [hmap, ← hflatten]
    rfl

end SecretScan
