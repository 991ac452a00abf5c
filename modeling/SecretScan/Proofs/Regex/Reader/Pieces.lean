import SecretScan.Proofs.Regex.Reader.Runs

/-!
# The small parts of an expression

The characters of bounds, of escapes and of the openings of groups decide alone what these are.
Exceptions are a group that is only numbered and `\b` without a name, which depend on the character
that follows.
-/

namespace SecretScan.Regex.Reader

/-! ## 1. Bounds -/

/-- The number that digits spell, if it fits in 32 bits. -/
def ofDigits? (digits : List Char) : Option Nat :=
  let n := digits.foldl (fun n d => n * 10 + (d.toNat - '0'.toNat)) 0
  if digits.isEmpty || UInt32.size ≤ n then none else some n

theorem runs_readDecimal (verbose : Bool) : Runs (readDecimal verbose) := by
  have hafter : ∀ digits, Runs fun cs => (ofDigits? digits, cs.dropWhile isBlank) :=
    fun digits => runs_dropWhile (ofDigits? digits) isBlank
  exact Runs.comp (runs_dropWhile () isBlank) fun _ =>
    Runs.comp (runs_spanVisible Char.isDigit verbose false) hafter

/-- A number after hidden characters. -/
theorem runs_skip_readDecimal (verbose : Bool) :
    Runs fun cs => readDecimal verbose (skip verbose cs) :=
  Runs.comp (runs_skip verbose) fun _ => runs_readDecimal verbose

/-- The result of reading a number is a number only if a digit is in sight. -/
theorem readDecimal_brace (verbose : Bool) (rest : List Char) :
    (readDecimal verbose ('}' :: rest)).1 = none := by
  have hblank : isBlank '}' = false := by decide
  have hspan : spanVisible Char.isDigit verbose false ('}' :: rest) = ([], '}' :: rest) := by
    rw [spanVisible, hblank]
    simp
  simp [readDecimal, hblank, hspan]

theorem firm_readBounds (verbose : Bool) : Firm (readBounds verbose) := by
  intro cs b rest h
  unfold readBounds at h
  split at h
  next least rest' hleast =>
    cases h
    -- one number, and the closing brace
    obtain ⟨before, hcs, hstop⟩ := (runs_skip_readDecimal verbose).stop hleast
    refine ⟨before ++ ['}'], by simp, by simp [hcs], fun more => ?_⟩
    simp [readBounds, hstop]
  next least rest' hleast =>
    -- a comma, and then either the closing brace or a second number
    obtain ⟨before, hcs, hstop⟩ := (runs_skip_readDecimal verbose).stop hleast
    split at h
    next rest'' hskip =>
      cases h
      obtain ⟨before', hrest', hstop'⟩ := skip_stop hskip
      refine ⟨before ++ ',' :: before' ++ ['}'], by simp, by simp [hcs, hrest'], fun more => ?_⟩
      simp [readBounds, hstop, hstop']
    next hbrace =>
      split at h
      next most rest'' hmost =>
        split_ifs at h with hle
        cases h
        obtain ⟨before', hrest', hstop'⟩ := (runs_skip_readDecimal verbose).stop hmost
        refine ⟨before ++ ',' :: before' ++ ['}'], by simp, by simp [hcs, hrest'], fun more => ?_⟩
        -- a number in sight is no closing brace, so the first of the two does not apply
        have hnot : ∀ rest, skip verbose (before' ++ '}' :: more) ≠ '}' :: rest := by
          intro rest hskip
          have hnone := readDecimal_brace verbose rest
          rw [← hskip, hstop'] at hnone
          cases hnone
        simp only [readBounds, List.append_assoc, List.cons_append, List.nil_append, hstop]
        rw [hstop']
        simp [hle]
      next => cases h
  next => cases h

/-! ## 2. Escapes -/

theorem firm_takeVisible (verbose : Bool) (n : Nat) {cs taken rest : List Char}
    (h : takeVisible verbose n cs = some (taken, rest)) :
    ∃ before, cs = before ++ rest ∧ n ≤ before.length ∧
      ∀ more, takeVisible verbose n (before ++ more) = some (taken, more) := by
  induction n generalizing cs taken with
  | zero =>
    cases h
    exact ⟨[], rfl, Nat.le_refl 0, fun more => rfl⟩
  | succ n ih =>
    rw [takeVisible] at h
    split at h
    next => cases h
    next c rest' hskip =>
      rw [Option.map_eq_some_iff] at h
      -- one visible character after the other, each with what is hidden before it
      obtain ⟨⟨taken', rest''⟩, htake, heq⟩ := h
      cases heq
      obtain ⟨before', hrest', hle, hmore'⟩ := ih htake
      obtain ⟨before, hcs, hstop⟩ := skip_stop hskip
      refine ⟨before ++ c :: before', by simp [hcs, hrest'], ?_, fun more => ?_⟩
      · simp only [List.length_append, List.length_cons]
        omega
      · simp [takeVisible, hstop, hmore']

theorem firm_readHex (verbose : Bool) {count : Nat} (hcount : 0 < count) :
    Firm (readHex verbose count) := by
  intro cs e rest h
  unfold readHex at h
  split at h
  next cs' hskip =>
    -- digits in braces
    obtain ⟨before, hcs, hstop⟩ := skip_stop hskip
    split at h
    next digits c rest' hspan =>
      obtain ⟨before', hcs', hstop'⟩ := (runs_spanVisible _ verbose false).stop hspan
      split at h
      next hhex =>
        cases h
        refine ⟨before ++ '{' :: before' ++ [c], by simp, by simp [hcs, hcs'], fun more => ?_⟩
        simp [readHex, hstop, hstop', hhex]
      next => cases h
    next => cases h
  next hbrace =>
    split at h
    next digits rest' htake =>
      split at h
      next hhex =>
        cases h
        -- a fixed number of digits, the first of which is no brace
        obtain ⟨taken, htaken, hle, hmore⟩ := firm_takeVisible verbose count htake
        obtain ⟨c, taken, rfl⟩ := List.exists_cons_of_length_pos (hcount.trans_le hle)
        obtain ⟨before, hcs, hstop⟩ := skip_stop htaken
        have hc : c ≠ '{' := by
          rintro rfl
          exact hbrace _ htaken
        refine ⟨before ++ c :: taken, by simp, by simp [hcs], fun more => ?_⟩
        have htake' := hmore more
        rw [List.cons_append] at htake'
        simp [readHex, hstop, htake', hhex, hc]
      next => cases h
    next => cases h

theorem firm_readProperty (verbose negated : Bool) : Firm (readProperty verbose negated) := by
  intro cs e rest h
  unfold readProperty at h
  split at h
  next => cases h
  next cs' hskip =>
    obtain ⟨before, hcs, hstop⟩ := skip_stop hskip
    split at h
    next text c rest' hspan =>
      obtain ⟨before', hcs', hstop'⟩ := (runs_spanVisible _ verbose false).stop hspan
      simp only [Except.ok.injEq, Prod.mk.injEq] at h
      obtain ⟨rfl, rfl⟩ := h
      refine ⟨before ++ '{' :: before' ++ [c], by simp, by simp [hcs, hcs'], fun more => ?_⟩
      simp only [readProperty, List.append_assoc, List.cons_append, List.nil_append, hstop, hstop']
    next => cases h
  next c rest' hbrace hskip =>
    obtain ⟨before, hcs, hstop⟩ := skip_stop hskip
    split_ifs at h with hslash
    cases h
    refine ⟨before ++ [c], by simp, by simp [hcs], fun more => ?_⟩
    simp only [readProperty, List.append_assoc, List.cons_append, List.nil_append, hstop,
      if_neg hslash]

/-- The name of an edge decides what the edge is; else `\\b` alone has been read. -/
theorem readEdge_firm {verbose : Bool} {cs rest : List Char} {e : Escape}
    (h : readEdge verbose cs = .ok (e, rest)) :
    (∃ taken, taken ≠ [] ∧ cs = taken ++ rest ∧ Gives (readEdge verbose) taken e) ∨
      e = .edge .boundary ∧ rest = cs := by
  unfold readEdge at h
  split at h
  next inner =>
    split at h
    next => cases h
    next d rest' hskip =>
      split_ifs at h with hedge
      · left
        split at h
        next name rest'' hspan =>
          obtain ⟨before, hinner, hstop⟩ := (runs_spanVisible _ verbose false).stop hspan
          have hname : name ≠ [] := by
            rintro rfl
            cases h
          obtain ⟨c, name, rfl⟩ := List.exists_cons_of_ne_nil hname
          have hgives : rest'' = rest ∧
              ∀ more, readEdge verbose ('{' :: (before ++ '}' :: more)) = .ok (e, more) := by
            -- the same four names are known whatever comes after the brace
            have hhead : ∀ more, ∃ rest', skip verbose (before ++ '}' :: more) = c :: rest' :=
              fun more => (spanVisible_head (hstop more)).2
            have hc : isEdgeChar c = true := (spanVisible_head hspan).1
            split at h <;> cases h
            all_goals
              refine ⟨rfl, fun more => ?_⟩
              obtain ⟨_, hskip'⟩ := hhead more
              simp_all [readEdge]
          refine ⟨'{' :: (before ++ ['}']), by simp, by simp [hinner, hgives.1], fun more => ?_⟩
          simpa using hgives.2 more
        next => cases h
      · cases h
        exact .inr ⟨rfl, rfl⟩
  next =>
    cases h
    exact .inr ⟨rfl, rfl⟩

/-- Where `\\b` stands alone, before the end of a text or of a branch. -/
theorem readEdge_append {verbose : Bool} {cs : List Char} {d : Char} (hd : endsBranch d = true)
    (h : readEdge verbose cs = .ok (.edge .boundary, cs)) (tail : List Char) :
    readEdge verbose (cs ++ d :: tail) = .ok (.edge .boundary, cs ++ d :: tail) := by
  unfold readEdge at h
  split at h
  next inner =>
    split at h
    next => cases h
    next d rest hskip =>
      split_ifs at h with hedge
      · -- a name in braces would have been taken, or refused
        exfalso
        split at h
        next => split at h <;> cases h
        next => cases h
      · simp [readEdge, skip_append, hskip, hedge]
  next hbrace =>
    cases cs with
    | nil => rcases endsBranch_iff.mp hd with rfl | rfl <;> rfl
    | cons c cs =>
      have hc : c ≠ '{' := by
        rintro rfl
        exact hbrace _ rfl
      simp [readEdge, hc]

/-- A brace after `\\b` that nothing in sight follows is left before a parenthesis only. -/
theorem readEdge_of_append {verbose : Bool} {cs tail : List Char}
    (h : readEdge verbose (cs ++ ')' :: tail) = .ok (.edge .boundary, cs ++ ')' :: tail)) :
    readEdge verbose cs = .ok (.edge .boundary, cs) ∨
      ∃ inner, cs = '{' :: inner ∧ skip verbose inner = [] := by
  cases cs with
  | nil => exact .inl rfl
  | cons c inner =>
    by_cases hc : c = '{'
    · subst hc
      -- what the brace begins is in sight before the parenthesis, or nothing is
      by_cases hnil : skip verbose inner = []
      · exact .inr ⟨inner, rfl, hnil⟩
      · left
        obtain ⟨d, rest, hskip⟩ := List.exists_cons_of_ne_nil hnil
        have hskip' : skip verbose (inner ++ ')' :: tail) = d :: (rest ++ ')' :: tail) := by
          rw [skip_append hnil, hskip]
          rfl
        rw [List.cons_append] at h
        simp only [readEdge, hskip'] at h
        simp only [readEdge, hskip]
        split_ifs at h ⊢ with hedge
        · -- as before the end of a text, a name in braces is taken or refused
          exfalso
          split at h
          next => split at h <;> cases h
          next => cases h
        · rfl
    · left
      simp [readEdge, hc]

/-- The first characters of an escape decide what it is, except for `\\b` alone. -/
theorem readEscape_firm {verbose : Bool} {cs rest : List Char} {e : Escape}
    (h : readEscape verbose cs = .ok (e, rest)) :
    (∃ taken, taken ≠ [] ∧ cs = taken ++ rest ∧ Gives (readEscape verbose) taken e) ∨
      e = .edge .boundary ∧ cs = 'b' :: rest := by
  cases cs with
  | nil => cases h
  | cons c cs =>
    -- an escape whose letter has a reader of its own
    have hfirm : ∀ {read : List Char → Except ReadError (Escape × List Char)}, Firm read →
        (∀ cs, readEscape verbose (c :: cs) = read cs) → read cs = .ok (e, rest) →
        ∃ taken, taken ≠ [] ∧ c :: cs = taken ++ rest ∧ Gives (readEscape verbose) taken e := by
      intro read hread heq h
      obtain ⟨taken, -, hcs, hgives⟩ := hread cs e rest h
      exact ⟨c :: taken, by simp, by simp [hcs], fun more => (heq _).trans (hgives more)⟩
    simp only [readEscape] at h
    split at h
    case h_1 => exact .inl (hfirm (firm_readHex verbose (by decide)) (fun _ => rfl) h)
    case h_2 => exact .inl (hfirm (firm_readHex verbose (by decide)) (fun _ => rfl) h)
    case h_3 => exact .inl (hfirm (firm_readHex verbose (by decide)) (fun _ => rfl) h)
    case h_4 => exact .inl (hfirm (firm_readProperty verbose false) (fun _ => rfl) h)
    case h_5 => exact .inl (hfirm (firm_readProperty verbose true) (fun _ => rfl) h)
    case h_20 =>
      rcases readEdge_firm h with ⟨taken, -, hcs, hgives⟩ | ⟨he, hrest⟩
      · exact .inl ⟨'b' :: taken, by simp, by simp [hcs], hgives⟩
      · exact .inr ⟨he, by rw [hrest]⟩
    case h_24 =>
      split_ifs at h with hliteral
      cases h
      refine .inl ⟨[c], by simp, rfl, fun more => ?_⟩
      simp_all [readEscape]
    all_goals
      cases h
      exact .inl ⟨[_], by simp, rfl, fun more => rfl⟩

/-! ## 3. Openings of groups -/

theorem firm_readFlags (f : Flags) (seen : List Char) (negated dangling : Bool) :
    Firm (readFlags f seen negated dangling) := by
  intro cs o rest h
  induction cs generalizing f seen negated dangling with
  | nil => cases h
  | cons c cs ih =>
    rw [readFlags] at h
    -- a letter or a minus only changes what the reader goes on with
    have hstep : ∀ {f' : Flags} {seen' : List Char} {negated' dangling' : Bool},
        (∀ cs, readFlags f seen negated dangling (c :: cs) =
          readFlags f' seen' negated' dangling' cs) →
        readFlags f' seen' negated' dangling' cs = .ok (o, rest) →
        ∃ taken, taken ≠ [] ∧ c :: cs = taken ++ rest ∧
          Gives (readFlags f seen negated dangling) taken o := by
      intro f' seen' negated' dangling' heq h
      obtain ⟨taken, -, hcs, hgives⟩ := ih _ _ _ _ h
      exact ⟨c :: taken, by simp, by simp [hcs], fun more => (heq _).trans (hgives more)⟩
    split_ifs at h with hcolon hdangling hparen hdangling hempty hminus hnegated hseen
    · cases h
      refine ⟨[c], by simp, rfl, fun more => ?_⟩
      simp [readFlags, hcolon, hdangling]
    · cases h
      refine ⟨[c], by simp, rfl, fun more => ?_⟩
      simp [readFlags, hparen, hdangling, hempty]
    · refine hstep (fun cs => ?_) h
      simp [readFlags, hminus, hnegated]
    · split at h
      next f' hset =>
        refine hstep (fun cs => ?_) h
        simp only [readFlags, if_neg hcolon, if_neg hparen, if_neg hminus, if_neg hseen, hset]
      next => cases h

theorem firm_readName : Firm readName := by
  intro cs o rest h
  have hrun := runs_takeWhile (· != '>')
  unfold readName at h
  split at h
  next c name d rest' htake hdrop =>
    split_ifs at h with hname
    cases h
    obtain ⟨before, hcs, hstop⟩ := hrun.stop (a := c :: name) (by rw [htake, hdrop])
    simp only [Prod.mk.injEq] at hstop
    refine ⟨before ++ [d], by simp, by simp [hcs], fun more => ?_⟩
    simp only [readName, List.append_assoc, List.cons_append, List.nil_append, hstop, if_pos hname]
  next => cases h

/-- The first characters of an opening decide what it is, except for a group without a sign of its
own, which is known by the character in sight. -/
theorem readOpening_firm {f : Flags} {cs rest : List Char} {o : Opening}
    (h : readOpening f cs = .ok (o, rest)) :
    (∃ taken, taken ≠ [] ∧ cs = taken ++ rest ∧ Gives (readOpening f) taken o) ∨
      o = .numbered ∧ rest = skip f.verbose cs ∧ rest.head? ≠ some '?' := by
  unfold readOpening at h
  split at h
  next rest' hskip =>
    obtain ⟨before, hcs, hstop⟩ := skip_stop hskip
    obtain ⟨taken, -, hrest', hgives⟩ := firm_readName _ _ _ h
    refine .inl ⟨before ++ '?' :: 'P' :: '<' :: taken, by simp, by simp [hcs, hrest'],
      fun more => ?_⟩
    simp only [readOpening, List.append_assoc, List.cons_append, hstop]
    exact hgives more
  next rest' hskip =>
    obtain ⟨before, hcs, hstop⟩ := skip_stop hskip
    obtain ⟨taken, -, hrest', hgives⟩ := firm_readName _ _ _ h
    refine .inl ⟨before ++ '?' :: '<' :: taken, by simp, by simp [hcs, hrest'], fun more => ?_⟩
    simp only [readOpening, List.append_assoc, List.cons_append, hstop]
    exact hgives more
  next rest' hnamed hangle hskip =>
    obtain ⟨before, hcs, hstop⟩ := skip_stop hskip
    obtain ⟨taken, hne, hrest', hgives⟩ := firm_readFlags _ _ _ _ _ _ _ h
    refine .inl ⟨before ++ '?' :: taken, by simp, by simp [hcs, hrest'], fun more => ?_⟩
    obtain ⟨c, taken, rfl⟩ := List.exists_cons_of_ne_nil hne
    -- neither sign of a name is a flag, so flags are not taken for a name whatever comes after
    have hsign : c ≠ 'P' ∧ c ≠ '<' := by
      rw [hrest', List.cons_append] at h
      constructor <;>
      · rintro rfl
        simp [readFlags, Flags.set?] at h
    simp only [readOpening, List.append_assoc, List.cons_append, hstop]
    split
    next heq => exact absurd (List.cons.inj (List.cons.inj heq).2).1 hsign.1
    next heq => exact absurd (List.cons.inj (List.cons.inj heq).2).1 hsign.2
    next heq =>
      cases heq
      exact hgives more
    next hother => exact absurd rfl (hother _)
  next hsign =>
    cases h
    refine .inr ⟨rfl, rfl, fun hhead => ?_⟩
    obtain ⟨rest', hrest'⟩ := List.head?_eq_some_iff.mp hhead
    exact hsign _ hrest'

theorem readOpening_numbered {f : Flags} {cs : List Char}
    (h : (skip f.verbose cs).head? ≠ some '?') :
    readOpening f cs = .ok (.numbered, skip f.verbose cs) := by
  unfold readOpening
  split
  next hskip => exact absurd (by rw [hskip]; rfl) h
  next hskip => exact absurd (by rw [hskip]; rfl) h
  next hskip => exact absurd (by rw [hskip]; rfl) h
  next => rfl

end SecretScan.Regex.Reader
