import SecretScan.Proofs.Regex.Reader.Bracket

/-!
# Reading one part

A part of an expression is read in two steps: first its characters, for which only the flags count,
and then what they mean for the open groups.  The first step is the same at the end of a text and
before a parenthesis, and the second step is the same inside a group and outside.
-/

namespace SecretScan.Regex.Reader

/-! ## 1. Characters and their meaning -/

/-- What the characters of one part are. -/
inductive Token where
  | opening (o : Opening)
  | close
  | branch
  | repetition (b : Bounds) (lazily : Bool)
  | bracket (m : Member)
  | escape (e : Escape)
  | plain (c : Char)

/-- Whether a repetition with bounds is lazy, and what follows it. -/
def afterBounds (verbose : Bool) (cs : List Char) : Bool × List Char := readLazy (skip verbose cs)

/-- Reads the characters of one part, of which the first is `c`. -/
def readToken (f : Flags) (c : Char) (rest : List Char) : Except ReadError (Token × List Char) :=
  match c with
  | '(' => (readOpening f rest).map fun x => (.opening x.1, x.2)
  | ')' => .ok (.close, rest)
  | '|' => .ok (.branch, rest)
  | '?' => .ok (.repetition ⟨0, some 1⟩ (readLazy rest).1, (readLazy rest).2)
  | '*' => .ok (.repetition ⟨0, none⟩ (readLazy rest).1, (readLazy rest).2)
  | '+' => .ok (.repetition ⟨1, none⟩ (readLazy rest).1, (readLazy rest).2)
  | '{' => (readBounds f.verbose rest).map fun x =>
      (.repetition x.1 (afterBounds f.verbose x.2).1, (afterBounds f.verbose x.2).2)
  | '[' => (readBracket f rest).map fun x => (.bracket x.1, x.2)
  | '\\' => (readEscape f.verbose rest).map fun x => (.escape x.1, x.2)
  | c => .ok (.plain c, rest)

/-- The part that a character stands for which is no sign of structure. -/
def plainPart (f : Flags) (c : Char) : Except ReadError Part :=
  match c with
  | '.' => (dot f).map fun s => .ofSet s 0
  | '^' => .ok (.ofLook (caret f))
  | '$' => .ok (.ofLook (dollar f))
  | c => .ok (.ofSet (f.charSet c) 0)

/-- What the characters of a part mean for the open groups. -/
def State.take (s : State) : Token → Except ReadError State
  | .opening o => s.start o
  | .close => s.finish
  | .branch => .ok { s with group := s.group.nextBranch }
  | .repetition b lazily => s.repeatLast b lazily
  | .bracket m => .ok (s.push (.ofSet m.set m.depth))
  | .escape e => (escaped s.flags e).map s.push
  | .plain c => (plainPart s.flags c).map s.push

/-- Whether the flags may be other ones after a part. -/
def Token.setsFlags : Token → Bool
  | .opening (.flagged _) | .opening (.setting _) | .close => true
  | _ => false

/-- What a token does to a state that takes it. -/
inductive State.Takes (s : State) : Token → State → Prop
  | numbered : s.Takes (.opening .numbered) (s.openGroup s.flags)
  | named {name : List Char} (hfree : s.names.contains name = false) :
      s.Takes (.opening (.named name)) { s.openGroup s.flags with names := name :: s.names }
  | flagged (inside : Flags) : s.Takes (.opening (.flagged inside)) (s.openGroup inside)
  | setting (flags : Flags) : s.Takes (.opening (.setting flags)) { s.push .ofFlags with flags }
  | close {g : OpenGroup} {flags : Flags} {outer : List (OpenGroup × Flags)}
      (houter : s.outer = (g, flags) :: outer) :
      s.Takes .close { s with flags, group := g.push s.group.close.group, outer }
  | branch : s.Takes .branch { s with group := s.group.nextBranch }
  | repetition {p : Part} {parts : List Part} (b : Bounds) (lazily : Bool)
      (hparts : s.group.parts = p :: parts) (hrepeatable : p.repeatable = true) :
      s.Takes (.repetition b lazily) { s with group := { s.group with
        parts := p.repeated (lazily == s.flags.swapGreed) b :: parts } }
  | bracket (m : Member) : s.Takes (.bracket m) (s.push (.ofSet m.set m.depth))
  | escape {e : Escape} {p : Part} (hpart : escaped s.flags e = .ok p) :
      s.Takes (.escape e) (s.push p)
  | plain {c : Char} {p : Part} (hpart : plainPart s.flags c = .ok p) : s.Takes (.plain c) (s.push p)

theorem State.takes_of_take {s s' : State} {t : Token} (h : s.take t = .ok s') : s.Takes t s' := by
  cases t with
  | opening o =>
    cases o with
    | named name =>
      simp only [take, start] at h
      -- the name must be free
      split_ifs at h with htaken
      cases h
      exact .named (Bool.not_eq_true _ ▸ htaken)
    | numbered | flagged | setting =>
      cases h
      constructor
  | close =>
    simp only [take, finish] at h
    split at h
    next => cases h
    next g flags outer houter =>
      cases h
      exact .close houter
  | branch =>
    cases h
    exact .branch
  | repetition b lazily =>
    simp only [take, repeatLast] at h
    split at h
    next => cases h
    next p parts hparts =>
      split_ifs at h with hrepeatable
      cases h
      exact .repetition b lazily hparts hrepeatable
  | bracket m =>
    cases h
    exact .bracket m
  | escape e =>
    simp only [take] at h
    cases hpart : escaped s.flags e <;> rw [hpart] at h <;> cases h
    exact .escape hpart
  | plain c =>
    simp only [take] at h
    cases hpart : plainPart s.flags c <;> rw [hpart] at h <;> cases h
    exact .plain hpart

theorem take_flags {s s' : State} {t : Token} (h : s.take t = .ok s') (ht : t.setsFlags = false) :
    s'.flags = s.flags := by
  cases State.takes_of_take h with
  | flagged | setting | close => cases ht
  | _ => rfl

theorem readPart_eq (s : State) (c : Char) (rest : List Char) :
    readPart s c rest =
      readToken s.flags c rest >>= fun x => (s.take x.1).map fun s' => (s', x.2) := by
  -- the meaning comes after the characters, however these are read
  have hmeaning : ∀ (x : Except ReadError State) (rest : List Char),
      (x >>= fun s' => pure (s', rest)) = x.map fun s' => (s', rest) := by
    intro x rest
    cases x <;> rfl
  have hmap : ∀ (x : Except ReadError Part) (rest : List Char),
      (x >>= fun p => pure (s.push p, rest)) = (x.map s.push).map fun s' => (s', rest) := by
    intro x rest
    cases x <;> rfl
  -- the cases follow the signs of `readToken`, then those of `plainPart`, then any other character
  unfold readPart
  split
  case h_1 =>
    simp only [readToken]
    cases readOpening s.flags rest with
    | error e => rfl
    | ok x => exact hmeaning (s.start x.1) x.2
  case h_2 => exact hmeaning s.finish rest
  case h_3 => rfl
  case h_4 => exact hmeaning (s.repeatLast _ _) _
  case h_5 => exact hmeaning (s.repeatLast _ _) _
  case h_6 => exact hmeaning (s.repeatLast _ _) _
  case h_7 =>
    simp only [readToken]
    cases readBounds s.flags.verbose rest with
    | error e => rfl
    | ok x => exact hmeaning (s.repeatLast _ _) _
  case h_8 =>
    simp only [readToken]
    cases readBracket s.flags rest with
    | error e => rfl
    | ok x => rfl
  case h_9 =>
    simp only [readToken]
    cases readEscape s.flags.verbose rest with
    | error e => rfl
    | ok x => exact hmap (escaped s.flags x.1) x.2
  case h_10 =>
    show _ = (((dot s.flags).map fun set => Part.ofSet set 0).map s.push).map _
    cases dot s.flags <;> rfl
  case h_11 => rfl
  case h_12 => rfl
  case h_13 h1 h2 h3 h4 h5 h6 h7 h8 h9 h10 h11 h12 =>
    have htoken : readToken s.flags c rest = .ok (.plain c, rest) := by
      unfold readToken
      split <;> first | contradiction | rfl
    have hplain : plainPart s.flags c = .ok (.ofSet (s.flags.charSet c) 0) := by
      unfold plainPart
      split <;> first | contradiction | rfl
    rw [htoken]
    show _ = ((plainPart s.flags c).map s.push).map _
    rw [hplain]
    rfl

/-! ## 2. The characters of a part -/

theorem readLazy_suffix (cs : List Char) : (readLazy cs).2 <:+ cs := by
  unfold readLazy
  split
  · exact List.suffix_cons _ _
  · exact List.suffix_refl _

theorem afterBounds_suffix (verbose : Bool) (cs : List Char) : (afterBounds verbose cs).2 <:+ cs :=
  (readLazy_suffix _).trans (skip_suffix verbose cs)

theorem readLazy_append {d : Char} (hd : endsBranch d = true) (cs tail : List Char) :
    readLazy (cs ++ d :: tail) = ((readLazy cs).1, (readLazy cs).2 ++ d :: tail) := by
  cases cs with
  | nil => rcases endsBranch_iff.mp hd with rfl | rfl <;> rfl
  | cons c cs =>
    by_cases hc : c = '?'
    · subst hc
      rfl
    · simp [readLazy, hc]

/-- A reader whose result is turned into a token. -/
theorem map_eq_ok {α : Type} {x : Except ReadError (α × List Char)} {g : α × List Char → β}
    {b : β} (h : x.map g = .ok b) : ∃ a rest, x = .ok (a, rest) ∧ g (a, rest) = b := by
  cases x with
  | error e => cases h
  | ok x =>
    cases h
    exact ⟨x.1, x.2, rfl, rfl⟩

theorem readToken_suffix {f : Flags} {c : Char} {rest rest' : List Char} {t : Token}
    (h : readToken f c rest = .ok (t, rest')) : rest' <:+ rest := by
  -- an opening, bounds, a bracket and an escape have readers of their own, in this order
  unfold readToken at h
  split at h
  case h_1 =>
    obtain ⟨o, rest'', hread, heq⟩ := map_eq_ok h
    cases heq
    rcases readOpening_firm hread with ⟨taken, -, hcs, -⟩ | ⟨-, hrest, -⟩
    · exact ⟨taken, hcs.symm⟩
    · rw [hrest]
      exact skip_suffix _ _
  case h_7 =>
    obtain ⟨b, rest'', hread, heq⟩ := map_eq_ok h
    cases heq
    exact (afterBounds_suffix _ _).trans ((firm_readBounds _).suffix hread)
  case h_8 =>
    obtain ⟨m, rest'', hread, heq⟩ := map_eq_ok h
    cases heq
    exact (firm_readBracket f).suffix hread
  case h_9 =>
    obtain ⟨e, rest'', hread, heq⟩ := map_eq_ok h
    cases heq
    rcases readEscape_firm hread with ⟨taken, -, hcs, -⟩ | ⟨-, hcs⟩
    · exact ⟨taken, hcs.symm⟩
    · rw [hcs]
      exact List.suffix_cons _ _
  all_goals
    cases h
    first
      | exact readLazy_suffix _
      | exact List.suffix_refl _

theorem readOpening_append {f : Flags} {cs rest : List Char} {o : Opening} {d : Char}
    (hd : endsBranch d = true)
    (h : readOpening f cs = .ok (o, rest)) (tail : List Char) :
    readOpening f (cs ++ d :: tail) = .ok (o, rest ++ d :: tail) ∨
      o = .numbered ∧ rest = [] ∧ f.verbose = true ∧
        ('\n' ∉ tail → readOpening f (cs ++ d :: tail) = .ok (o, [])) := by
  rcases readOpening_firm h with ⟨taken, -, rfl, hgives⟩ | ⟨rfl, rfl, hhead⟩
  · left
    rw [List.append_assoc]
    exact hgives _
  · -- a group without a sign of its own is known by the character in sight, if there is one
    by_cases hnil : skip f.verbose cs = []
    · rw [hnil]
      rcases skip_append_end hd hnil tail with hparen | ⟨hverbose, hhidden⟩
      · left
        have hhead' : (skip f.verbose (cs ++ d :: tail)).head? ≠ some '?' := by
          rw [hparen]
          rcases endsBranch_iff.mp hd with rfl | rfl <;> simp
        rw [readOpening_numbered hhead', hparen]
        rfl
      · right
        refine ⟨rfl, rfl, hverbose, fun htail => ?_⟩
        have hhead' : (skip f.verbose (cs ++ d :: tail)).head? ≠ some '?' := by
          rw [hhidden htail]
          simp
        rw [readOpening_numbered hhead', hhidden htail]
    · left
      have hhead' : (skip f.verbose (cs ++ d :: tail)).head? ≠ some '?' := by
        rw [skip_append hnil, List.head?_append_of_ne_nil _ hnil]
        exact hhead
      rw [readOpening_numbered hhead', skip_append hnil]

theorem readOpening_of_append {f : Flags} {cs rest tail : List Char} {o : Opening}
    (h : readOpening f (cs ++ ')' :: tail) = .ok (o, rest ++ ')' :: tail)) :
    readOpening f cs = .ok (o, rest) := by
  rcases readOpening_firm h with ⟨taken, -, htaken, hgives⟩ | ⟨rfl, hrest, hhead⟩
  · rw [← List.append_assoc] at htaken
    rw [List.append_cancel_right htaken]
    exact hgives rest
  · by_cases hnil : skip f.verbose cs = []
    · -- all of the text is hidden, so nothing of it is left
      have hle := (skip_append_suffix hnil (')' :: tail)).length_le
      rw [← hrest, List.length_append] at hle
      obtain rfl : rest = [] := List.length_eq_zero_iff.mp (by omega)
      rw [readOpening_numbered (by simp [hnil]), hnil]
    · rw [skip_append hnil] at hrest
      obtain rfl := List.append_cancel_right hrest
      rw [List.head?_append_of_ne_nil _ hnil] at hhead
      rw [readOpening_numbered hhead]

theorem readEscape_append {verbose : Bool} {cs rest : List Char} {e : Escape} {d : Char}
    (hd : endsBranch d = true)
    (h : readEscape verbose cs = .ok (e, rest)) (tail : List Char) :
    readEscape verbose (cs ++ d :: tail) = .ok (e, rest ++ d :: tail) := by
  rcases readEscape_firm h with ⟨taken, -, rfl, hgives⟩ | ⟨rfl, rfl⟩
  · rw [List.append_assoc]
    exact hgives _
  · exact readEdge_append hd h tail

theorem readEscape_of_append {verbose : Bool} {cs rest tail : List Char} {e : Escape}
    (h : readEscape verbose (cs ++ ')' :: tail) = .ok (e, rest ++ ')' :: tail)) :
    readEscape verbose cs = .ok (e, rest) ∨ ∃ inner, rest = '{' :: inner ∧ skip verbose inner = [] := by
  rcases readEscape_firm h with ⟨taken, -, htaken, hgives⟩ | ⟨rfl, hcs⟩
  · left
    rw [← List.append_assoc] at htaken
    rw [List.append_cancel_right htaken]
    exact hgives rest
  · rw [← List.cons_append] at hcs
    obtain rfl := List.append_cancel_right hcs
    rcases readEdge_of_append h with hedge | hbrace
    · exact .inl hedge
    · exact .inr hbrace

theorem afterBounds_append (verbose : Bool) {d : Char} (hd : endsBranch d = true)
    (cs tail : List Char) :
    afterBounds verbose (cs ++ d :: tail) =
        ((afterBounds verbose cs).1, (afterBounds verbose cs).2 ++ d :: tail) ∨
      afterBounds verbose cs = (false, []) ∧ verbose = true ∧
        ('\n' ∉ tail → afterBounds verbose (cs ++ d :: tail) = (false, [])) := by
  unfold afterBounds
  -- the question mark of a lazy repetition may stand after hidden characters
  by_cases hnil : skip verbose cs = []
  · rcases skip_append_end hd hnil tail with hparen | ⟨hverbose, hhidden⟩
    · left
      rw [hnil, hparen]
      exact readLazy_append hd [] tail
    · right
      rw [hnil]
      refine ⟨rfl, hverbose, fun htail => ?_⟩
      rw [hhidden htail]
      rfl
  · left
    rw [skip_append hnil, readLazy_append hd]

theorem afterBounds_of_append {verbose lazily : Bool} {cs rest tail : List Char}
    (h : afterBounds verbose (cs ++ ')' :: tail) = (lazily, rest ++ ')' :: tail)) :
    afterBounds verbose cs = (lazily, rest) := by
  unfold afterBounds at h ⊢
  by_cases hnil : skip verbose cs = []
  · -- all of the text is hidden, so the parenthesis is what comes in sight first
    have hsuffix := skip_append_suffix hnil (')' :: tail)
    have hsuffix' : rest ++ ')' :: tail <:+ skip verbose (cs ++ ')' :: tail) := by
      simpa only [h] using readLazy_suffix (skip verbose (cs ++ ')' :: tail))
    have hle := hsuffix.length_le
    have hle' := hsuffix'.length_le
    rw [List.length_append] at hle'
    obtain rfl : rest = [] := List.length_eq_zero_iff.mp (by omega)
    rw [hsuffix.eq_of_length_le (by omega)] at h
    cases h
    rw [hnil]
    rfl
  · rw [skip_append hnil, readLazy_append (by decide), Prod.mk.injEq] at h
    exact Prod.ext h.1 (List.append_cancel_right h.2)

/-- The characters of a part are the same before the end of a branch as at the end of the text,
unless a comment after them hides all that follows in its line. -/
theorem readToken_append {f : Flags} {c : Char} {rest rest' : List Char} {t : Token}
    {d : Char} (hd : endsBranch d = true)
    (h : readToken f c rest = .ok (t, rest')) (tail : List Char) :
    readToken f c (rest ++ d :: tail) = .ok (t, rest' ++ d :: tail) ∨
      rest' = [] ∧ f.verbose = true ∧ t.setsFlags = false ∧
        ('\n' ∉ tail → readToken f c (rest ++ d :: tail) = .ok (t, [])) := by
  -- what is hidden at the end counts after an opening and after bounds only
  unfold readToken at h
  split at h
  case h_1 =>
    obtain ⟨o, rest'', hread, heq⟩ := map_eq_ok h
    cases heq
    rcases readOpening_append hd hread tail with hsame | ⟨rfl, hnil, hverbose, hhidden⟩
    · exact .inl (by simp only [readToken, hsame]; rfl)
    · refine .inr ⟨hnil, hverbose, rfl, fun htail => ?_⟩
      simp only [readToken, hhidden htail]
      rfl
  case h_7 =>
    obtain ⟨b, rest'', hread, heq⟩ := map_eq_ok h
    cases heq
    have hbounds := (firm_readBounds f.verbose).append hread (d :: tail)
    rcases afterBounds_append f.verbose hd rest'' tail with
      hsame | ⟨hnil, hverbose, hhidden⟩
    · left
      simp only [readToken, hbounds, Except.map, hsame]
    · right
      refine ⟨by rw [hnil], hverbose, rfl, fun htail => ?_⟩
      simp only [readToken, hbounds, Except.map, hhidden htail, hnil]
  case h_8 =>
    obtain ⟨m, rest'', hread, heq⟩ := map_eq_ok h
    cases heq
    left
    simp only [readToken, (firm_readBracket f).append hread]
    rfl
  case h_9 =>
    obtain ⟨e, rest'', hread, heq⟩ := map_eq_ok h
    cases heq
    left
    simp only [readToken, readEscape_append hd hread]
    rfl
  case h_10 h1 h2 h3 h4 h5 h6 h7 h8 h9 =>
    cases h
    left
    unfold readToken
    split <;> first | contradiction | rfl
  all_goals
    cases h
    left
    simp only [readToken, readLazy_append hd]

/-- A part that is read before a parenthesis is a part at the end of the text too.  The exception is
`\\b` with a brace that nothing in sight follows. -/
theorem readToken_of_append {f : Flags} {c : Char} {rest rest' tail : List Char} {t : Token}
    (h : readToken f c (rest ++ ')' :: tail) = .ok (t, rest' ++ ')' :: tail)) :
    readToken f c rest = .ok (t, rest') ∨
      ∃ e inner, t = .escape e ∧ rest' = '{' :: inner ∧ skip f.verbose inner = [] := by
  unfold readToken at h
  split at h
  case h_1 =>
    obtain ⟨o, rest'', hread, heq⟩ := map_eq_ok h
    cases heq
    left
    simp only [readToken, readOpening_of_append hread]
    rfl
  case h_7 =>
    obtain ⟨b, rest'', hread, heq⟩ := map_eq_ok h
    rw [Prod.mk.injEq] at heq
    obtain ⟨rfl, hrest⟩ := heq
    left
    -- what is left over before the parenthesis lies in what the bounds left over
    obtain ⟨between, hbetween⟩ := afterBounds_suffix f.verbose rest''
    rw [hrest, ← List.append_assoc] at hbetween
    obtain rfl := hbetween
    have hafter := afterBounds_of_append (Prod.ext rfl hrest)
    simp only [readToken, (firm_readBounds f.verbose).of_append hread]
    simp [Except.map, hafter]
  case h_8 =>
    obtain ⟨m, rest'', hread, heq⟩ := map_eq_ok h
    cases heq
    left
    simp only [readToken, (firm_readBracket f).of_append hread]
    rfl
  case h_9 =>
    obtain ⟨e, rest'', hread, heq⟩ := map_eq_ok h
    cases heq
    rcases readEscape_of_append hread with hread' | hbrace
    · left
      simp only [readToken, hread']
      rfl
    · exact .inr ⟨e, hbrace.imp fun _ h => ⟨rfl, h⟩⟩
  case h_10 h1 h2 h3 h4 h5 h6 h7 h8 h9 =>
    left
    simp only [Except.ok.injEq, Prod.mk.injEq] at h
    obtain ⟨rfl, hrest⟩ := h
    rw [← List.append_cancel_right hrest]
    unfold readToken
    split <;> first | contradiction | rfl
  all_goals
    left
    simp only [Except.ok.injEq, Prod.mk.injEq, readLazy_append (d := ')') (by decide)] at h
    obtain ⟨rfl, hrest⟩ := h
    rw [← List.append_cancel_right hrest]
    rfl

/-! ## 3. Inside a group -/

/-- The state inside open groups `outer`, where groups have the names `names` already. -/
def State.under (s : State) (outer : List (OpenGroup × Flags)) (names : List (List Char)) : State :=
  { s with outer := s.outer ++ outer, names := s.names ++ names }

/-- The names that a part gives to groups. -/
def Token.names : Token → List (List Char)
  | .opening (.named name) => [name]
  | _ => []

/-- What a part means outside is what it means inside a group, except that a name may be taken. -/
theorem take_under {s s' : State} {t : Token} (h : s.take t = .ok s')
    (outer : List (OpenGroup × Flags)) (names : List (List Char)) :
    (s.under outer names).take t =
      if ∃ name ∈ t.names, name ∈ names then .error .duplicateGroupName
      else .ok (s'.under outer names) := by
  cases State.takes_of_take h with
  | @named name hfree =>
    -- the name is free outside, so only the names inside count
    have hfree' : name ∉ s.names := by simpa using hfree
    simp [Token.names, State.take, State.start, State.under, hfree', State.openGroup]
  | close houter => simp [Token.names, State.take, State.finish, State.under, houter]
  | repetition b lazily hparts hrepeatable =>
    simp [Token.names, State.take, State.repeatLast, State.under, hparts, hrepeatable]
  | escape hpart | plain hpart =>
    simp [Token.names, State.take, State.under, hpart]
    rfl
  | numbered | flagged | setting | branch | bracket =>
    simp [Token.names]
    rfl

end SecretScan.Regex.Reader
