import SecretScan.Proofs.Regex.Reader.Part

/-!
# Reading one part after the other

`Reader.Reads s cs u ds` says that the reader goes from the state `s` before the text `cs` to the
state `u` before what is left of it, `ds`.  What is read up to a parenthesis is read in the same way
at the end of a text, and what is read outside of groups is read in the same way inside.
-/

namespace SecretScan.Regex.Reader

/-! ## 1. Runs of the reader -/

/-- The reader gets from one state and text to another, part by part. -/
inductive Reads : State → List Char → State → List Char → Prop
  | refl (s : State) (cs : List Char) : Reads s cs s cs
  | part {s s' u : State} {c : Char} {cs rest rest' ds : List Char}
      (hskip : skip s.flags.verbose cs = c :: rest) (hpart : readPart s c rest = .ok (s', rest'))
      (hreads : Reads s' rest' u ds) : Reads s cs u ds

/-- The reader gets to the end of a text. -/
def Accepts (s : State) (cs : List Char) (u : State) : Prop :=
  ∃ ds, Reads s cs u ds ∧ skip u.flags.verbose ds = []

theorem readPart_eq_ok {s s' : State} {c : Char} {rest rest' : List Char} :
    readPart s c rest = .ok (s', rest') ↔
      ∃ t, readToken s.flags c rest = .ok (t, rest') ∧ s.take t = .ok s' := by
  rw [readPart_eq]
  constructor
  · intro h
    obtain ⟨x, htoken, h⟩ := bind_eq_ok h
    cases htake : s.take x.1 <;> rw [htake] at h <;> cases h
    exact ⟨x.1, htoken, htake⟩
  · rintro ⟨t, htoken, htake⟩
    rw [htoken]
    show (s.take t).map _ = _
    rw [htake]
    rfl

theorem readPart_suffix {s s' : State} {c : Char} {rest rest' : List Char}
    (h : readPart s c rest = .ok (s', rest')) : rest' <:+ rest := by
  obtain ⟨t, htoken, -⟩ := readPart_eq_ok.mp h
  exact readToken_suffix htoken

namespace Reads

variable {s u : State} {cs ds : List Char}

theorem suffix (h : Reads s cs u ds) : ds <:+ cs := by
  induction h with
  | refl => exact List.suffix_refl _
  | part hskip hpart _ ih =>
    have hrest := (List.suffix_cons _ _).trans (hskip ▸ skip_suffix _ _)
    exact ih.trans ((readPart_suffix hpart).trans hrest)

/-- Where nothing is in sight, nothing more is read. -/
theorem of_hidden (h : Reads s cs u ds) (hnil : skip s.flags.verbose cs = []) : u = s ∧ ds = cs := by
  cases h with
  | refl => exact ⟨rfl, rfl⟩
  | part hskip _ _ =>
    rw [hnil] at hskip
    cases hskip

end Reads

namespace Accepts

variable {s s' u : State} {c : Char} {cs rest rest' ds : List Char}

theorem of_hidden (h : Accepts s cs u) (hnil : skip s.flags.verbose cs = []) : u = s := by
  obtain ⟨ds, hreads, -⟩ := h
  exact (hreads.of_hidden hnil).1

theorem hidden (hnil : skip s.flags.verbose cs = []) : Accepts s cs s := ⟨cs, .refl s cs, hnil⟩

/-- What is in sight at a state is read from there. -/
theorem part (h : Accepts s cs u) (hskip : skip s.flags.verbose cs = c :: rest) :
    ∃ s' rest', readPart s c rest = .ok (s', rest') ∧ Accepts s' rest' u := by
  obtain ⟨ds, hreads, hnil⟩ := h
  cases hreads with
  | refl =>
    rw [hnil] at hskip
    cases hskip
  | part hskip' hpart hreads =>
    rw [hskip] at hskip'
    cases hskip'
    exact ⟨_, _, hpart, ds, hreads, hnil⟩

/-- The reader goes only one way. -/
theorem of_reads (h : Accepts s cs u) (hreads : Reads s cs s' ds) : Accepts s' ds u := by
  induction hreads with
  | refl => exact h
  | part hskip hpart _ ih =>
    obtain ⟨s'', rest'', hpart', h⟩ := h.part hskip
    rw [hpart] at hpart'
    cases hpart'
    exact ih h

theorem unique {u' : State} (h : Accepts s cs u) (h' : Accepts s cs u') : u = u' := by
  obtain ⟨ds, hreads, hnil⟩ := h'
  exact (h.of_reads hreads).of_hidden hnil

end Accepts

/-- The reader accepts what it reads with enough fuel. -/
theorem readFrom_eq_ok {fuel : Nat} {s u : State} {cs : List Char} (hfuel : cs.length < fuel) :
    readFrom fuel s cs = .ok u ↔ Accepts s cs u := by
  induction fuel generalizing s cs with
  | zero => omega
  | succ fuel ih =>
    rw [readFrom]
    cases hskip : skip s.flags.verbose cs with
    | nil =>
      constructor
      · intro h
        cases h
        exact .hidden hskip
      · intro h
        rw [h.of_hidden hskip]
    | cons c rest =>
      -- each part takes a character, so the fuel is enough for the rest
      have hlt : rest.length < cs.length := by
        have := skip_length_le s.flags.verbose cs
        rw [hskip, List.length_cons] at this
        omega
      have hrest : ∀ {s' rest'}, readPart s c rest = .ok (s', rest') → rest'.length < fuel := by
        intro s' rest' hpart
        have := (readPart_suffix hpart).length_le
        omega
      constructor
      · intro h
        obtain ⟨⟨s', rest'⟩, hpart, h⟩ := bind_eq_ok h
        obtain ⟨ds, hreads, hnil⟩ := (ih (hrest hpart)).mp h
        exact ⟨ds, .part hskip hpart hreads, hnil⟩
      · intro h
        obtain ⟨s', rest', hpart, h⟩ := h.part hskip
        simp only [hpart]
        exact (ih (hrest hpart)).mpr h

/-- The expression of a text is what the reader has at its end. -/
theorem read_eq_ok {text : List Char} {r : Regex} :
    read text = .ok r ↔ ∃ u, Accepts {} text u ∧ u.regex = .ok r := by
  unfold read
  constructor
  · intro h
    obtain ⟨u, hfrom, h⟩ := bind_eq_ok h
    exact ⟨u, (readFrom_eq_ok (Nat.lt_succ_self _)).mp hfrom, h⟩
  · rintro ⟨u, haccepts, h⟩
    rw [(readFrom_eq_ok (Nat.lt_succ_self _)).mpr haccepts]
    exact h

/-! ## 2. Before the end of a branch -/

theorem readPart_append {s s' : State} {c : Char} {rest rest' : List Char}
    {d : Char} (hd : endsBranch d = true)
    (h : readPart s c rest = .ok (s', rest')) (tail : List Char) :
    readPart s c (rest ++ d :: tail) = .ok (s', rest' ++ d :: tail) ∨
      rest' = [] ∧ s'.flags.verbose = true ∧
        ('\n' ∉ tail → readPart s c (rest ++ d :: tail) = .ok (s', [])) := by
  obtain ⟨t, htoken, htake⟩ := readPart_eq_ok.mp h
  rcases readToken_append hd htoken tail with hsame | ⟨hnil, hverbose, hflags, hhidden⟩
  · exact .inl (readPart_eq_ok.mpr ⟨t, hsame, htake⟩)
  · rw [← take_flags htake hflags] at hverbose
    exact .inr ⟨hnil, hverbose, fun htail => readPart_eq_ok.mpr ⟨t, hhidden htail, htake⟩⟩

/-- What is read to the end of a text is read up to the end of a branch after it, unless a comment
hides that and all that follows in its line. -/
theorem Accepts.append {s u : State} {cs : List Char} {d : Char} (hd : endsBranch d = true)
    (h : Accepts s cs u) (tail : List Char) :
    (∃ es, Reads s (cs ++ d :: tail) u es ∧ skip u.flags.verbose es = d :: tail) ∨
      u.flags.verbose = true ∧ ('\n' ∉ tail → Accepts s (cs ++ d :: tail) u) := by
  obtain ⟨ds, hreads, hnil⟩ := h
  -- part by part; the hidden end of the text comes after the last one
  induction hreads with
  | refl s cs =>
    rcases skip_append_end hd hnil tail with hparen | ⟨hverbose, hhidden⟩
    · exact .inl ⟨_, .refl _ _, hparen⟩
    · exact .inr ⟨hverbose, fun htail => .hidden (hhidden htail)⟩
  | @part s s' u c cs rest rest' ds hskip hpart hreads ih =>
    have hskip' : skip s.flags.verbose (cs ++ d :: tail) = c :: (rest ++ d :: tail) := by
      rw [skip_append (by simp [hskip]), hskip]
      rfl
    rcases readPart_append hd hpart tail with hsame | ⟨rfl, hverbose, hhidden⟩
    · rcases ih hnil with ⟨es, hes, hparen⟩ | ⟨hverbose, hhidden⟩
      · exact .inl ⟨es, .part hskip' hsame hes, hparen⟩
      · refine .inr ⟨hverbose, fun htail => ?_⟩
        obtain ⟨es, hes, hnil⟩ := hhidden htail
        exact ⟨es, .part hskip' hsame hes, hnil⟩
    · -- nothing is left over, so the reader is at the end
      obtain ⟨rfl, -⟩ := hreads.of_hidden rfl
      exact .inr ⟨hverbose, fun htail =>
        ⟨[], .part hskip' (hhidden htail) (.refl _ _), rfl⟩⟩

/-- A brace that nothing in sight follows before a parenthesis does not start bounds before it. -/
theorem readBounds_hidden {verbose : Bool} {inner tail rest : List Char} {b : Bounds}
    (hnil : skip verbose inner = [])
    (h : readBounds verbose (inner ++ ')' :: tail) = .ok (b, rest)) :
    rest.length ≤ tail.length := by
  have hskip : readBounds verbose (skip verbose (inner ++ ')' :: tail)) = .ok (b, rest) := by
    rw [← h]
    unfold readBounds
    rw [skip_skip]
  have hlt := (firm_readBounds verbose).length_lt hskip
  have hle := (skip_append_suffix hnil (')' :: tail)).length_le
  rw [List.length_cons] at hle
  omega

theorem brace_not_reads {s u : State} {inner es tail : List Char}
    (hnil : skip s.flags.verbose inner = [])
    (h : Reads s ('{' :: inner ++ ')' :: tail) u es) :
    skip u.flags.verbose es ≠ ')' :: tail := by
  intro hparen
  rw [List.cons_append] at h
  have hbrace := skip_visible s.flags.verbose (c := '{') (by decide) (by decide)
    (inner ++ ')' :: tail)
  -- the brace is in sight, so it is read as a part, and that part would be bounds
  cases h with
  | refl =>
    rw [hbrace] at hparen
    cases hparen
  | @part _ s' _ c _ rest rest' _ hskip hpart hreads =>
    rw [hbrace] at hskip
    cases hskip
    obtain ⟨t, htoken, -⟩ := readPart_eq_ok.mp hpart
    obtain ⟨b, rest'', hbounds, heq⟩ := map_eq_ok htoken
    cases heq
    have hle := readBounds_hidden hnil hbounds
    have hes := (hparen ▸ skip_suffix u.flags.verbose es).trans
      (hreads.suffix.trans (afterBounds_suffix _ _))
    have hlen : tail.length + 1 ≤ rest''.length := hes.length_le
    omega

/-- What is read up to a parenthesis is read to the end of the text before it. -/
theorem Reads.accepts {s u : State} {cs es tail : List Char}
    (h : Reads s (cs ++ ')' :: tail) u es) (hparen : skip u.flags.verbose es = ')' :: tail) :
    Accepts s cs u := by
  generalize htext : cs ++ ')' :: tail = text at h
  induction h generalizing cs with
  | refl s text =>
    subst htext
    apply Accepts.hidden
    -- something in sight before the parenthesis would be left over too
    by_contra hne
    rw [skip_append hne] at hparen
    have hlen := congrArg List.length hparen
    have hpos := List.length_pos_of_ne_nil hne
    rw [List.length_append] at hlen
    omega
  | @part s s' u c text rest rest' es hskip hpart hreads ih =>
    subst htext
    have hes : ')' :: tail <:+ rest' :=
      (hparen ▸ skip_suffix u.flags.verbose es).trans hreads.suffix
    have hrest := (readPart_suffix hpart).length_le
    have hlen := hes.length_le
    rw [List.length_cons] at hlen
    -- the part read first begins before the parenthesis, since the parenthesis is still to come
    have hne : skip s.flags.verbose cs ≠ [] := by
      intro hnil
      have hle := (skip_append_suffix hnil (')' :: tail)).length_le
      rw [hskip, List.length_cons, List.length_cons] at hle
      omega
    obtain ⟨d, visible, hvisible⟩ := List.exists_cons_of_ne_nil hne
    rw [skip_append hne, hvisible] at hskip
    cases hskip
    obtain ⟨kept, rfl⟩ := hes
    obtain ⟨t, htoken, htake⟩ := readPart_eq_ok.mp hpart
    rcases readToken_of_append htoken with hsame | ⟨e, inner, rfl, rfl, hnil⟩
    · obtain ⟨ds, hds, hnil⟩ := ih hparen rfl
      exact ⟨ds, .part hvisible (readPart_eq_ok.mpr ⟨t, hsame, htake⟩) hds, hnil⟩
    · -- a name of an edge is the one exception, and there the brace is not read any further
      exfalso
      exact brace_not_reads (take_flags htake rfl ▸ hnil) hreads hparen

/-! ## 3. Inside a group -/

/-- If a text is accepted inside a group, then so is what is left of it after a part of it that is
read outside too. -/
theorem Accepts.under {s u v : State} {cs ds : List Char} (h : Reads s cs u ds)
    {outer : List (OpenGroup × Flags)} {names : List (List Char)}
    (haccepts : Accepts (s.under outer names) cs v) : Accepts (u.under outer names) ds v := by
  induction h with
  | refl => exact haccepts
  | @part s s' u c cs rest rest' ds hskip hpart hreads ih =>
    obtain ⟨t, htoken, htake⟩ := readPart_eq_ok.mp hpart
    have hflags : (s.under outer names).flags = s.flags := rfl
    rw [← hflags] at hskip
    -- the same characters come first inside the group, so they are read as the same part
    obtain ⟨s'', rest'', hpart', haccepts⟩ := haccepts.part hskip
    obtain ⟨t', htoken', htake'⟩ := readPart_eq_ok.mp hpart'
    rw [hflags, htoken] at htoken'
    cases htoken'
    rw [take_under htake] at htake'
    split_ifs at htake'
    cases htake'
    exact ih haccepts

end SecretScan.Regex.Reader
