import SecretScan.Proofs.Pattern.Stage

/-!
# A line at the end of a list

The lines of a stage are read as one text, so a line that is appended to a list is read with the flags
that are in force at the end of the list, unless a comment there hides it.  The expression of the longer
list is the choice between that of the list and what the line stands for there
(`Pattern.read_appended`).
-/

namespace SecretScan

open Regex Regex.Reader

/-! ## 1. The choice that a group is -/

namespace Regex.Reader

/-- What can be chosen in a group. -/
def OpenGroup.options (g : OpenGroup) : List Regex :=
  ((Part.concat g.parts :: g.branches).map Part.regex).reverse

theorem OpenGroup.options_ne_nil (g : OpenGroup) : g.options ≠ [] := by
  simp [options]

theorem OpenGroup.close_regex (g : OpenGroup) : g.close.regex = Expr.choice g.options := by
  unfold close options
  split
  next hbranches =>
    rw [hbranches]
    rfl
  next =>
    rw [← List.map_reverse]
    rfl

/-- The group with branches before its own. -/
def OpenGroup.preceded (g : OpenGroup) (branches : List Part) : OpenGroup :=
  { g with branches := g.branches ++ branches }

/-! ## 2. Reading after other branches -/

/-- The open groups with branches before those of the outermost one. -/
def precededLast (branches : List Part) : List (OpenGroup × Flags) → List (OpenGroup × Flags)
  | [] => []
  | [(g, flags)] => [(g.preceded branches, flags)]
  | open_ :: next :: outer => open_ :: precededLast branches (next :: outer)

/-- The state after other branches and names. -/
def State.preceded (s : State) (branches : List Part) (names : List (List Char)) : State :=
  { s with
    group := if s.outer.isEmpty then s.group.preceded branches else s.group
    outer := precededLast branches s.outer
    names := s.names ++ names }

variable {s v : State} {branches : List Part} {names : List (List Char)}

theorem OpenGroup.options_preceded (g : OpenGroup) (branches : List Part) :
    (g.preceded branches).options = (branches.map Part.regex).reverse ++ g.options := by
  simp [options, preceded]

theorem precededLast_eq_nil {outer : List (OpenGroup × Flags)}
    (h : precededLast branches outer = []) : outer = [] := by
  cases outer with
  | nil => rfl
  | cons open_ outer => cases outer <;> cases h

theorem State.preceded_group (h : s.outer = []) :
    (s.preceded branches names).group = s.group.preceded branches := by
  unfold preceded
  rw [h]
  rfl

theorem push_preceded (s : State) (p : Part) :
    (s.preceded branches names).push p = (s.push p).preceded branches names := by
  unfold State.push State.preceded
  cases s.outer <;> rfl

theorem openGroup_preceded (s : State) (inside : Flags) :
    (s.preceded branches names).openGroup inside = (s.openGroup inside).preceded branches names := by
  unfold State.openGroup State.preceded
  cases s.outer <;> rfl

theorem start_preceded {o : Opening} (h : (s.preceded branches names).start o = .ok v) :
    ∃ w, s.start o = .ok w ∧ v = w.preceded branches names := by
  cases o with
  | numbered =>
    cases h
    exact ⟨_, rfl, openGroup_preceded s s.flags⟩
  | named name =>
    simp only [State.start] at h ⊢
    split_ifs at h with htaken
    cases h
    -- a name that is not taken after the other branches is not taken without them
    have hfree : s.names.contains name = false := by
      simp only [State.preceded, List.contains_eq_mem, List.mem_append, decide_eq_true_eq] at htaken
      simpa using fun hmem => htaken (.inl hmem)
    simp only [hfree, Bool.false_eq_true, if_false]
    refine ⟨_, rfl, ?_⟩
    rw [openGroup_preceded]
    rfl
  | flagged inside =>
    cases h
    exact ⟨_, rfl, openGroup_preceded s inside⟩
  | setting flags =>
    cases h
    refine ⟨_, rfl, ?_⟩
    rw [push_preceded]
    rfl

theorem finish_preceded (h : (s.preceded branches names).finish = .ok v) :
    ∃ w, s.finish = .ok w ∧ v = w.preceded branches names := by
  obtain ⟨flags, group, outer, taken⟩ := s
  cases outer with
  | nil => cases h
  | cons open_ outer =>
    cases outer <;>
    · cases h
      exact ⟨_, rfl, rfl⟩

theorem repeatLast_preceded {b : Bounds} {lazily : Bool}
    (h : (s.preceded branches names).repeatLast b lazily = .ok v) :
    ∃ w, s.repeatLast b lazily = .ok w ∧ v = w.preceded branches names := by
  -- only branches come before, so the last part is the same
  have hparts : (s.preceded branches names).group.parts = s.group.parts := by
    unfold State.preceded
    cases s.outer <;> rfl
  unfold State.repeatLast at h ⊢
  rw [hparts] at h
  split at h
  next => cases h
  next p parts =>
    split_ifs at h ⊢ with hrepeatable
    cases h
    refine ⟨_, rfl, ?_⟩
    unfold State.preceded
    cases s.outer <;> rfl

/-- A part means the same after other branches. -/
theorem take_preceded {t : Token} (h : (s.preceded branches names).take t = .ok v) :
    ∃ w, s.take t = .ok w ∧ v = w.preceded branches names := by
  -- a bracket, an escape and a plain character add a part
  have hpush : ∀ {x : Except ReadError Part}, x.map (s.preceded branches names).push = .ok v →
      ∃ w, x.map s.push = .ok w ∧ v = w.preceded branches names := by
    intro x hx
    cases x with
    | error e => cases hx
    | ok p =>
      cases hx
      exact ⟨_, rfl, push_preceded s p⟩
  cases t with
  | opening o => exact start_preceded h
  | close => exact finish_preceded h
  | branch =>
    cases h
    refine ⟨_, rfl, ?_⟩
    unfold State.preceded
    cases s.outer <;> rfl
  | repetition b lazily => exact repeatLast_preceded h
  | bracket m =>
    cases h
    exact ⟨_, rfl, push_preceded s _⟩
  | escape e => exact hpush h
  | plain c => exact hpush h

/-- What is read after other branches is read without them. -/
theorem Reads.of_preceded {cs ds : List Char} (h : Reads (s.preceded branches names) cs v ds) :
    ∃ w, Reads s cs w ds ∧ v = w.preceded branches names := by
  generalize hstart : s.preceded branches names = start at h
  -- both runs skip the same characters, since the flags are the same
  induction h generalizing s with
  | refl => exact ⟨s, .refl _ _, hstart.symm⟩
  | part hskip hpart _ ih =>
    subst hstart
    obtain ⟨t, htoken, htake⟩ := readPart_eq_ok.mp hpart
    obtain ⟨w, htake', rfl⟩ := take_preceded htake
    obtain ⟨u, hreads, rfl⟩ := ih rfl
    exact ⟨u, .part hskip (readPart_eq_ok.mpr ⟨t, htoken, htake'⟩) hreads, rfl⟩

end Regex.Reader

/-! ## 3. Appending a line -/

namespace Pattern

variable {lines : List (List Char)} {line : List Char}

theorem alternation_concat (hne : lines ≠ []) (line : List Char) :
    alternation (lines ++ [line]) = alternation lines ++ '|' :: alternation [line] := by
  induction lines with
  | nil => exact absurd rfl hne
  | cons first lines ih =>
    cases lines with
    | nil => simp [alternation]
    | cons second lines =>
      have hcons : ∀ rest, alternation (first :: second :: rest) =
          '(' :: first ++ ')' :: '|' :: alternation (second :: rest) := fun _ => rfl
      have ih := ih (List.cons_ne_nil second lines)
      rw [List.cons_append] at ih
      rw [List.cons_append, List.cons_append, hcons, ih, hcons]
      simp

/-- What a line stands for at the end of a list, where it is read with the flags that are in force
there. -/
def appended (lines : List (List Char)) (line : List Char) : Except ReadError Regex := do
  let u ← readFrom ((alternation lines).length + 1) {} (alternation lines)
  let w ← readFrom ((alternation [line]).length + 1) { flags := u.flags } (alternation [line])
  return w.group.close.regex

theorem appended_eq_ok {u w : State} (hu : Accepts {} (alternation lines) u)
    (hw : Accepts { flags := u.flags } (alternation [line]) w) :
    appended lines line = .ok w.group.close.regex := by
  unfold appended
  rw [(readFrom_eq_ok (Nat.lt_succ_self _)).mpr hu]
  show readFrom _ _ _ >>= _ = _
  rw [(readFrom_eq_ok (Nat.lt_succ_self _)).mpr hw]
  rfl

/-- Comments are allowed at the end of a list. -/
def EndsVerbose (lines : List (List Char)) : Prop :=
  ∃ u, Accepts {} (alternation lines) u ∧ u.flags.verbose = true

/-- How a list changes if a line is appended: by what the line stands for there, unless a comment at
the end of the list hides the line, which then changes nothing if it is a single line. -/
theorem read_appended (hne : lines ≠ []) {r r' : Regex} (h : Regex.read (alternation lines) = .ok r)
    (h' : Regex.read (alternation (lines ++ [line])) = .ok r') :
    (∃ added, appended lines line = .ok added ∧
        ∀ text, search r' text = search (Expr.choice [r, added]) text) ∨
      EndsVerbose lines ∧ ('\n' ∉ line → r' = r) := by
  obtain ⟨u, hu, hregex⟩ := read_eq_ok.mp h
  obtain ⟨houter, -, -, rfl⟩ := regex_eq_ok.mp hregex
  obtain ⟨v, hv, hregex'⟩ := read_eq_ok.mp h'
  obtain ⟨houter', -, -, rfl⟩ := regex_eq_ok.mp hregex'
  rw [alternation_concat hne] at hv
  rcases hu.append (d := '|') (by decide) (alternation [line]) with
    ⟨es, hreads, hbar⟩ | ⟨hverbose, hhidden⟩
  · left
    have hbranch : Accepts u.afterBar (alternation [line]) v :=
      (hv.of_reads hreads).of_reads (.part hbar rfl (.refl _ _))
    -- the list has become branches before those of the line
    have hstart : u.afterBar = State.preceded { flags := u.flags }
        (Part.concat u.group.parts :: u.group.branches) u.names := by
      obtain ⟨flags, group, outer, names⟩ := u
      obtain rfl : outer = [] := houter
      rfl
    rw [hstart] at hbranch
    obtain ⟨ds, hreads, hnil⟩ := hbranch
    obtain ⟨w, hw, rfl⟩ := Reads.of_preceded hreads
    have hwouter : w.outer = [] := precededLast_eq_nil houter'
    refine ⟨_, appended_eq_ok hu ⟨ds, hw, hnil⟩, fun text => ?_⟩
    rw [OpenGroup.close_regex u.group, OpenGroup.close_regex w.group,
      ← search_choice_append u.group.options_ne_nil w.group.options_ne_nil, State.preceded_group hwouter,
      OpenGroup.close_regex, OpenGroup.options_preceded]
    rfl
  · right
    refine ⟨⟨u, hu, hverbose⟩, fun hnewline => ?_⟩
    have htail : '\n' ∉ alternation [line] := by simpa [alternation] using hnewline
    rw [(hhidden htail).unique hv]

/-- Lines that are read one by one leave no flags in force. -/
theorem Separate.flags_eq (h : Separate lines) (hne : lines ≠ []) {u : State}
    (hu : Accepts {} (alternation lines) u) : u.flags = {} := by
  obtain ⟨us, hends⟩ := h.ends
  exact (hends.accepts hne rfl rfl hu).1

theorem Separate.not_endsVerbose (h : Separate lines) (hne : lines ≠ []) : ¬ EndsVerbose lines := by
  rintro ⟨u, hu, hverbose⟩
  rw [h.flags_eq hne hu] at hverbose
  cases hverbose

/-- At the end of lines that are read one by one, a line stands for the same as alone. -/
theorem Separate.appended_eq (h : Separate lines) (hne : lines ≠ []) {r added : Regex}
    (hread : Regex.read (alternation lines) = .ok r)
    (halone : Regex.read (alternation [line]) = .ok added) : appended lines line = .ok added := by
  obtain ⟨u, hu, -⟩ := read_eq_ok.mp hread
  obtain ⟨w, hw, hregex⟩ := read_eq_ok.mp halone
  obtain ⟨-, -, -, rfl⟩ := regex_eq_ok.mp hregex
  refine appended_eq_ok hu ?_
  rw [h.flags_eq hne hu]
  exact hw

end Pattern

end SecretScan
