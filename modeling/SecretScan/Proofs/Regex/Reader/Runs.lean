import Mathlib
import SecretScan.Regex.Reader

/-!
# Reading and what comes after it

A part of an expression is read alike whatever stands after it, unless its reading runs into what
stands there.  Two notions say so.  `Reader.Runs` is for what always succeeds and may stop anywhere:
if it stops before the end of the text, then it stops there whatever comes after the text, and else
it stops somewhere in what comes after.  `Reader.Firm` is for what may fail, but takes characters
that decide alone what it gives if it succeeds.
-/

namespace SecretScan.Regex.Reader

variable {α β : Type}

/-- What is read does not depend on what comes after it, unless the reading goes to the end. -/
structure Runs (run : List Char → α × List Char) : Prop where
  suffix : ∀ cs, (run cs).2 <:+ cs
  extend : ∀ cs more, (run cs).2 ≠ [] → run (cs ++ more) = ((run cs).1, (run cs).2 ++ more)
  beyond : ∀ cs more, (run cs).2 = [] → (run (cs ++ more)).2 <:+ more

/-- The characters `taken` make the reader give `a`, whatever comes after them. -/
def Gives (read : List Char → Except ReadError (α × List Char)) (taken : List Char) (a : α) : Prop :=
  ∀ more, read (taken ++ more) = .ok (a, more)

/-- What is taken decides what is given. -/
def Settled (read : List Char → Except ReadError (α × List Char)) : Prop :=
  ∀ cs a rest, read cs = .ok (a, rest) → ∃ taken, cs = taken ++ rest ∧ Gives read taken a

/-- What is taken decides what is given, and at least one character is taken. -/
def Firm (read : List Char → Except ReadError (α × List Char)) : Prop :=
  ∀ cs a rest, read cs = .ok (a, rest) →
    ∃ taken, taken ≠ [] ∧ cs = taken ++ rest ∧ Gives read taken a

namespace Runs

theorem nil {run : List Char → α × List Char} (h : Runs run) : (run []).2 = [] :=
  List.suffix_nil.mp (h.suffix [])

/-- One run after the other. -/
theorem comp {run : List Char → α × List Char} {next : α → List Char → β × List Char}
    (hrun : Runs run) (hnext : ∀ a, Runs (next a)) :
    Runs fun cs => next (run cs).1 (run cs).2 where
  suffix cs := ((hnext _).suffix _).trans (hrun.suffix cs)
  extend cs more h := by
    have hne : (run cs).2 ≠ [] := by
      intro hnil
      rw [hnil, (hnext _).nil] at h
      exact h rfl
    simp only [hrun.extend cs more hne]
    exact (hnext _).extend _ more h
  beyond cs more h := by
    by_cases hnil : (run cs).2 = []
    · exact ((hnext _).suffix _).trans (hrun.beyond cs more hnil)
    · simp only [hrun.extend cs more hnil]
      exact (hnext _).beyond _ more h

end Runs

/-- A run that stops at a character stops there whatever comes after the character. -/
theorem Runs.stop {run : List Char → α × List Char} (hrun : Runs run) {cs : List Char} {a : α}
    {c : Char} {rest : List Char} (h : run cs = (a, c :: rest)) :
    ∃ before, cs = before ++ c :: rest ∧
      ∀ more, run (before ++ c :: more) = (a, c :: more) := by
  obtain ⟨before, hcs⟩ : c :: rest <:+ cs := by simpa only [h] using hrun.suffix cs
  have hsplit : cs = (before ++ [c]) ++ rest := by rw [← hcs]; simp
  -- had the run gone to the end here, it would have gone past the character in the whole text
  have hne : (run (before ++ [c])).2 ≠ [] := by
    intro hnil
    have hle := (hrun.beyond (before ++ [c]) rest hnil).length_le
    rw [← hsplit, h] at hle
    simp at hle
  have hwhole := hrun.extend (before ++ [c]) rest hne
  rw [← hsplit, h, Prod.mk.injEq] at hwhole
  -- the rest is cut off on both sides, so the run stops right before the character
  have hone : (run (before ++ [c])).2 = [c] :=
    List.append_cancel_right (show _ ++ rest = [c] ++ rest from hwhole.2.symm)
  refine ⟨before, hcs.symm, fun more => ?_⟩
  have hmore := hrun.extend (before ++ [c]) more hne
  rw [hone, ← hwhole.1] at hmore
  simpa using hmore

/-- A run that stops at some characters stops there whatever comes after them. -/
theorem Runs.stop_append {run : List Char → α × List Char} (hrun : Runs run) {cs : List Char} {a : α}
    {kept rest : List Char} (hkept : kept ≠ []) (h : run cs = (a, kept ++ rest)) :
    ∃ before, cs = before ++ (kept ++ rest) ∧
      ∀ more, run (before ++ (kept ++ more)) = (a, kept ++ more) := by
  obtain ⟨c, kept, rfl⟩ := List.exists_cons_of_ne_nil hkept
  obtain ⟨before, hcs, hstop⟩ := hrun.stop h
  exact ⟨before, hcs, fun more => hstop (kept ++ more)⟩

theorem Firm.length_lt {read : List Char → Except ReadError (α × List Char)} (h : Firm read)
    {cs : List Char} {a : α} {rest : List Char} (hread : read cs = .ok (a, rest)) :
    rest.length < cs.length := by
  obtain ⟨taken, hne, hcs, -⟩ := h cs a rest hread
  have := List.length_pos_of_ne_nil hne
  rw [hcs, List.length_append]
  omega

theorem Firm.suffix {read : List Char → Except ReadError (α × List Char)} (h : Firm read)
    {cs : List Char} {a : α} {rest : List Char} (hread : read cs = .ok (a, rest)) : rest <:+ cs := by
  obtain ⟨taken, -, hcs, -⟩ := h cs a rest hread
  exact ⟨taken, hcs.symm⟩

theorem Firm.append {read : List Char → Except ReadError (α × List Char)} (h : Firm read)
    {cs : List Char} {a : α} {rest : List Char} (hread : read cs = .ok (a, rest))
    (more : List Char) : read (cs ++ more) = .ok (a, rest ++ more) := by
  obtain ⟨taken, -, rfl, hgives⟩ := h cs a rest hread
  rw [List.append_assoc]
  exact hgives (rest ++ more)

theorem Firm.of_append {read : List Char → Except ReadError (α × List Char)} (h : Firm read)
    {cs : List Char} {a : α} {rest more : List Char}
    (hread : read (cs ++ more) = .ok (a, rest ++ more)) : read cs = .ok (a, rest) := by
  obtain ⟨taken, -, htaken, hgives⟩ := h _ a _ hread
  rw [← List.append_assoc] at htaken
  rw [List.append_cancel_right htaken]
  exact hgives rest

/-- Reading after a run. -/
theorem Firm.comp {run : List Char → α × List Char}
    {read : α → List Char → Except ReadError (β × List Char)} (hrun : Runs run)
    (hread : ∀ a, Firm (read a)) : Firm fun cs => read (run cs).1 (run cs).2 := by
  intro cs b rest h
  obtain ⟨taken, hne, hcs, hgives⟩ := hread _ _ b rest h
  obtain ⟨c, taken, rfl⟩ := List.exists_cons_of_ne_nil hne
  have hstops : run cs = ((run cs).1, c :: (taken ++ rest)) := Prod.ext rfl hcs
  obtain ⟨before, hbefore, hstop⟩ := hrun.stop hstops
  refine ⟨before ++ c :: taken, by simp, by simp [hbefore], fun more => ?_⟩
  have hmore := hgives more
  simp only [List.append_assoc, List.cons_append] at hmore ⊢
  rw [hstop (taken ++ more)]
  exact hmore

/-- One part after the other. -/
theorem Firm.bind {read : List Char → Except ReadError (α × List Char)}
    {next : α → List Char → Except ReadError (β × List Char)} (hread : Firm read)
    (hnext : ∀ a, Settled (next a)) : Firm fun cs => read cs >>= fun x => next x.1 x.2 := by
  intro cs b rest h
  cases hcs : read cs with
  | error e =>
    simp only [hcs] at h
    cases h
  | ok x =>
    simp only [hcs] at h
    -- both readers decide by what they take, the second one from where the first one stops
    obtain ⟨taken, hne, htaken, hgives⟩ := hread cs x.1 x.2 hcs
    obtain ⟨taken', htaken', hgives'⟩ := hnext x.1 x.2 b rest h
    refine ⟨taken ++ taken', by simp [hne], by rw [htaken, htaken']; simp, fun more => ?_⟩
    simp only [List.append_assoc]
    rw [hgives (taken' ++ more)]
    exact hgives' more

/-- Nothing more is taken. -/
theorem settled_pure (result : Except ReadError α) :
    Settled fun cs => result.map fun a => (a, cs) := by
  intro cs a rest h
  cases result with
  | error e => cases h
  | ok b =>
    cases h
    exact ⟨[], rfl, fun more => rfl⟩

/-! ## 1. Visible characters -/

theorem runs_dropWhile (a : α) (p : Char → Bool) :
    Runs fun cs : List Char => (a, cs.dropWhile p) where
  suffix cs := List.dropWhile_suffix p
  extend cs more h := by
    rw [Prod.mk.injEq]
    refine ⟨rfl, ?_⟩
    rw [List.dropWhile_append]
    simp only [ne_eq] at h
    rw [if_neg (by simpa using h)]
  beyond cs more h := by
    show (cs ++ more).dropWhile p <:+ more
    rw [List.dropWhile_append, if_pos (by simpa using h)]
    exact List.dropWhile_suffix p

theorem spanVisible_suffix (keep : Char → Bool) (verbose comment : Bool) (cs : List Char) :
    (spanVisible keep verbose comment cs).2 <:+ cs := by
  induction cs generalizing comment with
  | nil => exact List.suffix_refl _
  | cons c cs ih =>
    rw [spanVisible]
    split_ifs
    · exact (ih _).trans (List.suffix_cons _ _)
    · exact (ih _).trans (List.suffix_cons _ _)
    · exact (ih _).trans (List.suffix_cons _ _)
    · exact (ih false).trans (List.suffix_cons _ _)
    · exact List.suffix_refl _

-- Each character is passed over or kept by itself, and only whether a comment is open is carried to
-- the next one, so what is appended changes nothing before the span ends.
theorem runs_spanVisible (keep : Char → Bool) (verbose comment : Bool) :
    Runs (spanVisible keep verbose comment) where
  suffix := spanVisible_suffix keep verbose comment
  extend cs more h := by
    induction cs generalizing comment with
    | nil => exact absurd rfl h
    | cons c cs ih =>
      rw [List.cons_append]
      rw [spanVisible] at h ⊢
      rw [spanVisible]
      split_ifs at h ⊢
      · exact ih _ h
      · exact ih _ h
      · exact ih _ h
      · simp only [ih false h]
      · rfl
  beyond cs more h := by
    induction cs generalizing comment with
    | nil => exact spanVisible_suffix keep verbose comment more
    | cons c cs ih =>
      rw [List.cons_append]
      rw [spanVisible] at h ⊢
      split_ifs at h ⊢
      · exact ih _ h
      · exact ih _ h
      · exact ih _ h
      · exact ih false h

theorem runs_takeWhile (p : Char → Bool) :
    Runs fun cs : List Char => (cs.takeWhile p, cs.dropWhile p) := by
  have heq : (fun cs : List Char => (cs.takeWhile p, cs.dropWhile p)) =
      spanVisible p false false := by
    funext cs
    induction cs with
    | nil => rfl
    | cons c cs ih =>
      rw [spanVisible, ← ih]
      cases hc : p c <;> simp [hc]
  rw [heq]
  exact runs_spanVisible p false false

theorem skip_suffix (verbose : Bool) (cs : List Char) : skip verbose cs <:+ cs :=
  (runs_spanVisible _ verbose false).suffix cs

theorem skip_append {verbose : Bool} {cs : List Char} (h : skip verbose cs ≠ [])
    (more : List Char) : skip verbose (cs ++ more) = skip verbose cs ++ more := by
  rw [skip, (runs_spanVisible _ verbose false).extend cs more h]
  rfl

theorem skip_append_suffix {verbose : Bool} {cs : List Char} (h : skip verbose cs = [])
    (more : List Char) : skip verbose (cs ++ more) <:+ more :=
  (runs_spanVisible _ verbose false).beyond cs more h

theorem runs_skip (verbose : Bool) : Runs fun cs => ((), skip verbose cs) where
  suffix := skip_suffix verbose
  extend cs more h := by rw [skip_append h]
  beyond cs more h := skip_append_suffix h more

/-- What was skipped before a character is known from itself and that character. -/
theorem skip_stop {verbose : Bool} {cs rest : List Char} {c : Char}
    (h : skip verbose cs = c :: rest) :
    ∃ before, cs = before ++ c :: rest ∧ ∀ more, skip verbose (before ++ c :: more) = c :: more := by
  obtain ⟨before, hcs, hstop⟩ := (runs_skip verbose).stop (a := ()) (by rw [h])
  exact ⟨before, hcs, fun more => (Prod.mk.inj (hstop more)).2⟩

theorem skip_length_le (verbose : Bool) (cs : List Char) : (skip verbose cs).length ≤ cs.length :=
  (skip_suffix verbose cs).length_le

theorem skip_skip (verbose : Bool) (cs : List Char) :
    skip verbose (skip verbose cs) = skip verbose cs := by
  -- a comment may be open, so the statement is about every state of the span
  have hskip : ∀ comment, skip verbose (spanVisible (fun _ => false) verbose comment cs).2 =
      (spanVisible (fun _ => false) verbose comment cs).2 := by
    induction cs with
    | nil => exact fun _ => rfl
    | cons c cs ih =>
      intro comment
      rw [spanVisible]
      split_ifs with hcomment hblank hhash
      · exact ih _
      · exact ih _
      · exact ih _
      · contradiction
      · rw [skip, spanVisible, if_neg (by simp), if_neg hblank, if_neg hhash]
        rfl
  exact hskip false

/-- Outside verbose mode nothing is hidden. -/
theorem skip_false (cs : List Char) : skip false cs = cs := by
  cases cs <;> rfl

/-- A character is in sight unless it is a blank or starts a comment. -/
theorem skip_visible (verbose : Bool) {c : Char} (hblank : isBlank c = false) (hhash : c ≠ '#')
    (cs : List Char) : skip verbose (c :: cs) = c :: cs := by
  rw [skip, spanVisible, hblank]
  simp [hhash]

/-- Whether a character ends what can be chosen: a closing parenthesis or a bar. -/
def endsBranch (c : Char) : Bool := c == ')' || c == '|'

theorem endsBranch_iff {c : Char} : endsBranch c = true ↔ c = ')' ∨ c = '|' := by
  simp [endsBranch]

theorem skip_end (verbose : Bool) {d : Char} (hd : endsBranch d = true) (tail : List Char) :
    skip verbose (d :: tail) = d :: tail := by
  rcases endsBranch_iff.mp hd with rfl | rfl
  · exact skip_visible verbose (by decide) (by decide) tail
  · exact skip_visible verbose (by decide) (by decide) tail

/-- The first character of a run is the first one in sight. -/
theorem spanVisible_head {keep : Char → Bool} {verbose comment : Bool} {cs : List Char} {c : Char}
    {run rest : List Char} (h : spanVisible keep verbose comment cs = (c :: run, rest)) :
    keep c = true ∧ ∃ rest', (spanVisible (fun _ => false) verbose comment cs).2 = c :: rest' := by
  induction cs generalizing comment with
  | nil => cases h
  | cons d cs ih =>
    rw [spanVisible] at h ⊢
    simp only [Bool.false_eq_true, if_false]
    -- hidden characters are passed over by both spans; the first visible one is kept or ends both
    split_ifs at h ⊢ with hcomment hblank hhash hkeep
    · exact ih h
    · exact ih h
    · exact ih h
    · cases h
      exact ⟨hkeep, cs, rfl⟩
    · cases h

/-- A comment hides all that comes before the end of its line. -/
theorem comment_hides {verbose : Bool} {cs : List Char} (h : '\n' ∉ cs) :
    (spanVisible (fun _ => false) verbose true cs).2 = [] := by
  induction cs with
  | nil => rfl
  | cons c cs ih =>
    rw [List.mem_cons, not_or] at h
    have hc : (c != '\n') = true := by simpa using Ne.symm h.1
    rw [spanVisible, if_pos rfl, hc]
    exact ih h.2

/-- What is hidden to the end of a text is followed by the end of a branch in sight, unless a comment
hides that too; such a comment goes on through the end of the line. -/
theorem hidden_append_end {verbose comment : Bool} {cs : List Char} {d : Char}
    (hd : endsBranch d = true)
    (h : (spanVisible (fun _ => false) verbose comment cs).2 = []) (tail : List Char) :
    (spanVisible (fun _ => false) verbose comment (cs ++ d :: tail)).2 = d :: tail ∨
      (comment = true ∨ verbose = true) ∧ ('\n' ∉ tail →
        (spanVisible (fun _ => false) verbose comment (cs ++ d :: tail)).2 = []) := by
  induction cs generalizing comment with
  | nil =>
    -- at the end of the text an open comment goes on, and otherwise the sign is in sight
    cases comment with
    | false => exact .inl (skip_end verbose hd tail)
    | true =>
      refine .inr ⟨.inl rfl, fun htail => comment_hides ?_⟩
      rcases endsBranch_iff.mp hd with rfl | rfl <;> simp [htail]
  | cons c cs ih =>
    rw [List.cons_append]
    rw [spanVisible] at h ⊢
    split_ifs at h ⊢ with hcomment hblank hhash
    · exact (ih h).imp_right fun hright => ⟨.inl hcomment, hright.2⟩
    · exact (ih h).imp_right fun hright => ⟨.inr (hright.1.resolve_left (by simp)), hright.2⟩
    · rw [Bool.and_eq_true] at hhash
      exact (ih h).imp_right fun hright => ⟨.inr hhash.1, hright.2⟩
    · contradiction

theorem skip_append_end {verbose : Bool} {cs : List Char} {d : Char} (hd : endsBranch d = true)
    (h : skip verbose cs = []) (tail : List Char) :
    skip verbose (cs ++ d :: tail) = d :: tail ∨
      verbose = true ∧ ('\n' ∉ tail → skip verbose (cs ++ d :: tail) = []) :=
  (hidden_append_end hd h tail).imp_right fun hright =>
    ⟨hright.1.resolve_left (by simp), hright.2⟩

end SecretScan.Regex.Reader
