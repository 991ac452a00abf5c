import SecretScan.Proofs.Regex.First
import SecretScan.Regex.Search

/-!
# The search finds the leftmost match

The search runs over the places of a text from the last to the first and keeps, at each leaf, the
answer of what follows that leaf one place to the right.  `Regex.marks` says which answers these
are, `Regex.step_marks` that one step computes them for the next place, and `Regex.search_eq_leftmost`
that the search as a whole gives what trying all ways gives.
-/

namespace SecretScan

namespace Regex

/-! ## 1. Marked expressions that are put together -/

namespace Marked

theorem value_after (p : Place) (r s : Marked) (answer : Option Nat) :
    value p (r.after s) answer = value p r (value p s answer) := by
  -- only two expressions without answers are put together into one without answers
  unfold after
  split
  next r s =>
    cases answer with
    | none => rfl
    | some n =>
      simp only [value, emptyAt, Bool.and_eq_true]
      by_cases hs : emptyAt p s = true
      · simp only [hs, and_true, ↓reduceIte]
        rfl
      · simp only [hs, and_false, Bool.false_eq_true, ↓reduceIte]
        rfl
  next => rfl

theorem value_orElse (p : Place) (r s : Marked) (answer : Option Nat) :
    value p (r.orElse s) answer = (value p r answer <|> value p s answer) := by
  unfold orElse
  split
  next r s =>
    cases answer with
    | none => rfl
    | some n =>
      simp only [value, emptyAt, Bool.or_eq_true]
      by_cases hr : emptyAt p r = true
      · simp [hr]
      · simp [hr]
  next => rfl

theorem value_rounds (p : Place) (greedy : Bool) (r : Marked) (answer : Option Nat) :
    value p (r.rounds greedy) answer = value p r answer := by
  unfold rounds
  split
  next r => cases answer <;> rfl
  next => rfl

theorem value_ofLeaf (p : Place) (s : CharSet) (mark answer : Option Nat) :
    value p (ofLeaf s mark) answer =
      match p.rest with
      | c :: _ => if s.has c then mark else none
      | [] => none := by
  cases mark with
  | none => cases answer <;> cases hp : p.rest <;> simp [ofLeaf, value, emptyAt]
  | some n => rfl

/-- A step on an expression without answers gives none where nothing follows. -/
theorem step_idle (p : Place) (r : Regex) (answer : Option Nat) :
    step p (idle r) answer =
      (value p (idle r) answer,
        match answer with
        | some n => wake p n r
        | none => idle r) := by
  cases answer <;> rfl

theorem step_after (p : Place) (r s : Marked) (answer : Option Nat) :
    step p (r.after s) answer =
      ((step p r (step p s answer).1).1,
        (step p r (step p s answer).1).2.after (step p s answer).2) := by
  -- an answer that passes the second part wakes the first one
  unfold after
  split
  next r s =>
    cases answer with
    | none => rfl
    | some n =>
      simp only [step, value, emptyAt, wake, Bool.and_eq_true]
      by_cases hs : emptyAt p s = true
      · simp only [hs, and_true, ↓reduceIte, step_idle, value]
        rfl
      · simp only [hs, and_false, Bool.false_eq_true, ↓reduceIte, step_idle, value]
        rfl
  next => rfl

theorem step_orElse (p : Place) (r s : Marked) (answer : Option Nat) :
    step p (r.orElse s) answer =
      ((step p r answer).1 <|> (step p s answer).1,
        (step p r answer).2.orElse (step p s answer).2) := by
  -- a first alternative that takes nothing has the answer that is preferred
  unfold orElse
  split
  next r s =>
    cases answer with
    | none => rfl
    | some n =>
      simp only [step, value, emptyAt, wake, Bool.or_eq_true]
      by_cases hr : emptyAt p r = true
      · simp only [hr, true_or, ↓reduceIte]
        rfl
      · simp only [hr, Bool.false_eq_true, false_or, ↓reduceIte]
        rfl
  next => rfl

theorem step_rounds (p : Place) (greedy : Bool) (r : Marked) (answer : Option Nat) :
    step p (r.rounds greedy) answer =
      (value p r answer,
        (step p r (loop greedy (value p r none) answer)).2.rounds greedy) := by
  -- a body without answers has none to begin the loop with
  unfold rounds
  split
  next r =>
    cases answer with
    | none => cases greedy <;> rfl
    | some n => cases greedy <;> rfl
  next => rfl

theorem step_ofLeaf (p : Place) (s : CharSet) (mark answer : Option Nat) :
    step p (ofLeaf s mark) answer = (value p (ofLeaf s mark) answer, ofLeaf s answer) := by
  cases mark with
  | none => rw [ofLeaf, step_idle]; cases answer <;> rfl
  | some n => rfl

end Marked

/-! ## 2. The marks at a place -/

/-- The expression in which each leaf is marked with the answer at `p` of what follows the leaf, if
`k` gives the answers of what follows the whole expression. -/
def marks : Regex → (Place → Option Nat) → Place → Marked
  | .empty, _, _ => .idle .empty
  | .leaf s, k, p => .ofLeaf s (k p)
  | .look l, _, _ => .idle (.look l)
  | .seq r s, k, p => (marks r (first s k) p).after (marks s k p)
  | .alt r s, k, p => (marks r k p).orElse (marks s k p)
  -- a leaf of the body has been passed when its mark is asked for, so a later round comes next
  | .plus greedy r, k, p => (marks r (moreRounds greedy (first r) k) p).rounds greedy

/-- The answers agree at every place after `p`. -/
def AgreeAfter (p : Place) (k k' : Place → Option Nat) : Prop :=
  ∀ q, p.Leads q → q ≠ p → k q = k' q

/-- `q` is the place one character after `p`, if there is one. -/
def Next (p q : Place) : Prop := ∀ c rest, p.rest = c :: rest → q = ⟨some c, rest⟩

theorem AgreeAfter.ahead {p q : Place} {k k' : Place → Option Nat} (h : AgreeAfter p k k')
    (hq : p.Leads q) (hne : q ≠ p) : ∀ t, q.Leads t → k t = k' t := by
  intro t ht
  apply h t (hq.trans ht)
  rintro rfl
  have := hq.length_lt hne
  have := ht.length_le
  omega

theorem AgreeAfter.first {p : Place} {k k' : Place → Option Nat} (h : AgreeAfter p k k')
    (r : Regex) : AgreeAfter p (first r k) (first r k') :=
  fun _ hq hne => first_congr r (h.ahead hq hne)

theorem AgreeAfter.moreRounds {p : Place} {k k' : Place → Option Nat} (h : AgreeAfter p k k')
    (greedy : Bool) (r : Regex) :
    AgreeAfter p (moreRounds greedy (Regex.first r) k) (moreRounds greedy (Regex.first r) k') :=
  fun _ hq hne => moreRounds_congr greedy (first_asksAhead r) _ _ _ (h.ahead hq hne)

theorem moreRounds_eq_loop (greedy : Bool) (r : Regex) (k : Place → Option Nat) (p : Place) :
    moreRounds greedy (first r) k p =
      Marked.loop greedy
        (first r (fun q => if q.rest.length < p.rest.length
          then moreRounds greedy (first r) k q else none) p) (k p) := by
  rw [moreRounds]
  rfl

/-- Rounds after the first agree with answers `k'` that are known after `p`, whatever is said of the
rounds that took no character. -/
theorem agreeAfter_rounds {p : Place} {k k' : Place → Option Nat} (h : AgreeAfter p k k')
    (greedy : Bool) (r : Regex) (otherwise : Place → Option Nat) :
    AgreeAfter p
      (fun q => if q.rest.length < p.rest.length then Regex.moreRounds greedy (Regex.first r) k q
        else otherwise q)
      (Regex.moreRounds greedy (Regex.first r) k') := by
  intro q hq hne
  show (if q.rest.length < p.rest.length then _ else _) = _
  rw [if_pos (hq.length_lt hne)]
  exact h.moreRounds greedy r q hq hne

/-- The answer at a place is computed from the marks one place to the right. -/
theorem value_marks {p q : Place} (hq : Next p q) (r : Regex) {k k' : Place → Option Nat}
    (h : AgreeAfter p k k') : (marks r k' q).value p (k p) = first r k p := by
  -- the answers differ from part to part, so both of them are generalized
  induction r generalizing k k' with
  | empty =>
    rw [marks, Regex.first]
    cases k p <;> rfl
  | leaf s =>
    rw [marks, Marked.value_ofLeaf, Regex.first]
    obtain ⟨before, rest⟩ := p
    cases rest with
    | nil => rfl
    | cons c rest =>
      -- the mark of a leaf is the answer at the place after its character
      obtain rfl := hq c rest rfl
      have hk : k ⟨some c, rest⟩ = k' ⟨some c, rest⟩ := by
        apply h _ (.step before c rest)
        intro heq
        have := congrArg (fun p : Place => p.rest.length) heq
        simp only [List.length_cons] at this
        omega
      simp only [hk]
  | look l =>
    rw [marks, Regex.first]
    cases k p with
    | none => rw [ite_self]; rfl
    | some n => rfl
  | seq r s ihr ihs =>
    rw [marks, Marked.value_after, ihs h, ihr (h.first s), Regex.first]
  | alt r s ihr ihs =>
    rw [marks, Marked.value_orElse, ihs h, ihr h, Regex.first]
  | plus greedy r ih =>
    -- a round that ends where it began has the answer of what follows
    rw [marks, Marked.value_rounds, Regex.first, ← ih (agreeAfter_rounds h greedy r k)]
    rw [if_neg (Nat.lt_irrefl _)]

/-- One step to the left gives the answer at the place and the marks there. -/
theorem step_marks {p q : Place} (hq : Next p q) (r : Regex) {k k' : Place → Option Nat}
    (h : AgreeAfter p k k') : (marks r k' q).step p (k p) = (first r k p, marks r k p) := by
  induction r generalizing k k' with
  | empty =>
    rw [← value_marks hq .empty h, marks, marks, Marked.step_idle]
    cases k p <;> rfl
  | leaf s =>
    rw [← value_marks hq (.leaf s) h, marks, Marked.step_ofLeaf]
    rfl
  | look l =>
    rw [← value_marks hq (.look l) h, marks, marks, Marked.step_idle]
    cases k p <;> rfl
  | seq r s ihr ihs =>
    rw [marks, Marked.step_after, ihs h, ihr (h.first s)]
    rfl
  | alt r s ihr ihs =>
    rw [marks, Marked.step_orElse, ihs h, ihr h]
    rfl
  | plus greedy r ih =>
    -- the loop begins with what one more round gives if it takes a character
    have hvalue := value_marks hq (.plus greedy r) h
    have hagain := value_marks hq r (agreeAfter_rounds h greedy r fun _ => none)
    rw [if_neg (Nat.lt_irrefl _)] at hagain
    rw [marks, Marked.value_rounds] at hvalue
    rw [marks, Marked.step_rounds, hvalue, hagain, ← moreRounds_eq_loop, ih (h.moreRounds greedy r)]
    rfl

/-! ## 3. The search without pruning -/

/-- Where nothing follows, no leaf has an answer. -/
theorem marks_none (r : Regex) (p : Place) : marks r (fun _ => none) p = .idle r := by
  induction r with
  | empty | leaf s | look l => rfl
  | seq r s ihr ihs =>
    rw [marks, show first s (fun _ => none) = fun _ => none from funext (first_none s), ihr, ihs]
    rfl
  | alt r s ihr ihs =>
    rw [marks, ihr, ihs]
    rfl
  | plus greedy r ih =>
    rw [marks, show moreRounds greedy (first r) (fun _ => none) = fun _ => none from
      funext (moreRounds_none greedy r), ih]
    rfl

/-- The answer of what follows the whole expression: how many characters are left over. -/
def leftOver (q : Place) : Option Nat := some q.rest.length

theorem matchAt_eq (r : Regex) (p : Place) :
    matchAt r p = (first r leftOver p).map (p.rest.length - ·) := by
  rw [← first_map]
  rfl

theorem placesFromEnd_append (acc : List Place) (before : Option Char) (rest : List Char) :
    placesFromEnd acc before rest = placesFromEnd [] before rest ++ acc := by
  induction rest generalizing acc before with
  | nil => rfl
  | cons c rest ih => rw [placesFromEnd, placesFromEnd, ih, ih [_], List.append_assoc]; rfl

/-- What is known after the places of a text from its end to the one before `rest`. -/
def progressAt (r : Regex) (before : Option Char) (rest : List Char) : Progress :=
  (placesFromEnd [] before rest).foldl Progress.look ⟨0, .idle r, none⟩

theorem progressAt_cons (r : Regex) (before : Option Char) (c : Char) (rest : List Char) :
    progressAt r before (c :: rest) = (progressAt r (some c) rest).look ⟨before, c :: rest⟩ := by
  rw [progressAt, placesFromEnd, placesFromEnd_append, List.foldl_append]
  rfl

theorem progressAt_remaining (r : Regex) (before : Option Char) (rest : List Char) :
    (progressAt r before rest).remaining = rest.length + 1 := by
  induction rest generalizing before with
  | nil => rfl
  | cons c rest ih => rw [progressAt_cons, Progress.look, ih, List.length_cons]

/-- The step that a look takes, from the marks one place to the right. -/
theorem look_step {p q : Place} (hq : Next p q) (r : Regex) (k : Place → Option Nat)
    (h : AgreeAfter p leftOver k) (s : Progress) (hmarked : s.marked = marks r k q)
    (hremaining : s.remaining = p.rest.length) :
    (s.look p).marked = marks r leftOver p ∧
      (s.look p).found = match first r leftOver p with
        | some n => some (p.rest.length, n)
        | none => s.found := by
  have hstep := step_marks hq r h
  rw [leftOver, ← hremaining, ← hmarked] at hstep
  unfold Progress.look
  rw [hstep, hremaining]
  exact ⟨rfl, rfl⟩

theorem progressAt_marked (r : Regex) (before : Option Char) (rest : List Char) :
    (progressAt r before rest).marked = marks r leftOver ⟨before, rest⟩ ∧
      (progressAt r before rest).found =
        match first r leftOver ⟨before, rest⟩ with
        | some n => some (rest.length, n)
        | none => match rest with
          | [] => none
          | c :: rest => (progressAt r (some c) rest).found := by
  induction rest generalizing before with
  | nil =>
    -- no place lies after the last one, so the answers there may be taken to be none
    have h := look_step (p := ⟨before, []⟩) (q := ⟨before, []⟩) (by intro c rest hc; cases hc) r
      (fun _ => none) (fun q hq hne => absurd (hq.eq_of_rest_nil rfl) hne) ⟨0, .idle r, none⟩
      (marks_none r _).symm rfl
    exact h
  | cons c rest ih =>
    have h := look_step (p := ⟨before, c :: rest⟩) (q := ⟨some c, rest⟩)
      (by intro c' rest' hc; cases hc; rfl) r leftOver (fun _ _ _ => rfl)
      (progressAt r (some c) rest) (ih (some c)).1 (progressAt_remaining r (some c) rest)
    rw [progressAt_cons]
    exact h

/-- The match that is found starts at one of the places seen. -/
theorem progressAt_start_le (r : Regex) (before : Option Char) (rest : List Char)
    (start stop : Nat) (h : (progressAt r before rest).found = some (start, stop)) :
    start ≤ rest.length := by
  induction rest generalizing before with
  | nil =>
    -- the match starts at the place itself or at one of those seen before
    rw [(progressAt_marked r before []).2] at h
    cases hfirst : first r leftOver ⟨before, []⟩ with
    | none => simp [hfirst] at h
    | some n =>
      simp only [hfirst, Option.some.injEq, Prod.mk.injEq] at h
      omega
  | cons c rest ih =>
    rw [(progressAt_marked r before (c :: rest)).2] at h
    cases hfirst : first r leftOver ⟨before, c :: rest⟩ with
    | none =>
      simp only [hfirst] at h
      have := ih (some c) h
      rw [List.length_cons]
      omega
    | some n =>
      simp only [hfirst, Option.some.injEq, Prod.mk.injEq] at h
      omega

theorem leftmostFrom_eq (r : Regex) (at_ : Nat) (before : Option Char) (rest : List Char) :
    leftmostFrom r at_ before rest =
      (progressAt r before rest).found.map fun (start, stop) =>
        (at_ + (rest.length - start), start - stop) := by
  -- both sides prefer the place at hand to all that come after it
  induction rest generalizing at_ before with
  | nil =>
    rw [leftmostFrom, matchAt_eq, (progressAt_marked r before []).2]
    cases first r leftOver ⟨before, []⟩ <;> rfl
  | cons c rest ih =>
    rw [leftmostFrom, matchAt_eq, (progressAt_marked r before (c :: rest)).2]
    cases first r leftOver ⟨before, c :: rest⟩ with
    | some n => simp
    | none =>
      simp only [Option.map_none, ih]
      cases hfound : (progressAt r (some c) rest).found with
      | none => rfl
      | some m =>
        obtain ⟨start, stop⟩ := m
        -- positions are counted from the end of the text, so the subtraction must not be cut off
        have := progressAt_start_le r (some c) rest start stop hfound
        simp only [Option.map_some, List.length_cons, Option.some.injEq, Prod.mk.injEq, and_true]
        omega

theorem searchMarked_eq_leftmost (r : Regex) (text : List Char) :
    searchMarked r text = leftmost r text := by
  have hremaining := progressAt_remaining r none text
  rw [leftmost, leftmostFrom_eq]
  unfold searchMarked
  simp only [progressAt] at hremaining ⊢
  simp only [hremaining, Nat.add_sub_cancel, Nat.zero_add]

/-! ## 4. Pruning -/

/-- All characters at or after the place occur in the text. -/
def Place.Within (text : List Char) (p : Place) : Prop := ∀ c ∈ p.rest, c ∈ text

theorem Place.Within.ahead {text : List Char} {p q : Place} (hp : Place.Within text p)
    (hq : p.Leads q) : Place.Within text q :=
  fun c hc => hp c (hq.suffix.subset hc)

theorem moreRounds_congr_body (greedy : Bool) {r r' : Regex} {text : List Char}
    (hr : ∀ (k : Place → Option Nat) p, Place.Within text p → first r k p = first r' k p)
    (k : Place → Option Nat) (p : Place) (hp : Place.Within text p) :
    moreRounds greedy (first r) k p = moreRounds greedy (first r') k p := by
  -- on the characters left, since each further round has to take one
  induction hn : p.rest.length using Nat.strongRecOn generalizing p with
  | ind n ih =>
    have hagain : first r (fun q => if q.rest.length < p.rest.length
          then moreRounds greedy (first r) k q else none) p =
        first r' (fun q => if q.rest.length < p.rest.length
          then moreRounds greedy (first r') k q else none) p := by
      rw [hr _ p hp]
      apply first_congr
      intro q hq
      by_cases hlt : q.rest.length < p.rest.length
      · rw [if_pos hlt, if_pos hlt]
        exact ih _ (hn ▸ hlt) q (hp.ahead hq) rfl
      · rw [if_neg hlt, if_neg hlt]
    rw [moreRounds_eq_loop, moreRounds_eq_loop, hagain]

/-- What pruning leaves has the same answers in the text, and what it takes away has none. -/
theorem first_prune (text : List Char) (r : Regex) (k : Place → Option Nat) (p : Place)
    (hp : Place.Within text p) :
    first r k p = match prune text r with
      | some r' => first r' k p
      | none => none := by
  -- what comes after a part is itself a trial, so it is generalized together with the place
  induction r generalizing k p with
  | empty => rfl
  | leaf s =>
    rw [prune]
    by_cases hany : text.any s.has = true
    · rw [if_pos hany]
    · rw [if_neg hany]
      obtain ⟨before, rest⟩ := p
      cases rest with
      | nil => rfl
      | cons c rest =>
        -- a leaf is taken away only if none of the characters of the text belongs to its set
        have hc : ¬ s.has c = true := by
          intro hc
          exact hany (List.any_eq_true.mpr ⟨c, hp c List.mem_cons_self, hc⟩)
        rw [first]
        exact if_neg hc
  | look l => rfl
  | seq r s ihr ihs =>
    rw [first, prune, ihr _ p hp]
    cases prune text r with
    | none => rfl
    | some r' =>
      have hs : ∀ q, p.Leads q → first s k q = match prune text s with
          | some s' => first s' k q
          | none => none := fun q hq => ihs k q (hp.ahead hq)
      -- the second part is asked at places ahead only, and those lie in the text too
      show first r' (first s k) p = _
      rw [first_congr r' hs]
      cases prune text s with
      | none => exact first_none r' p
      | some s' => rfl
  | alt r s ihr ihs =>
    rw [first, prune, ihr k p hp, ihs k p hp]
    cases prune text r with
    | none => cases prune text s <;> rfl
    | some r' =>
      cases prune text s with
      | none =>
        show (first r' k p <|> none) = first r' k p
        cases first r' k p <;> rfl
      | some s' => rfl
  | plus greedy r ih =>
    rw [first, prune, ih _ p hp]
    cases hprune : prune text r with
    | none => rfl
    | some r' =>
      -- the body is kept, so every round of it has the same answers
      have hr : ∀ (k : Place → Option Nat) q, Place.Within text q →
          first r k q = first r' k q := by
        intro k q hq
        rw [ih k q hq, hprune]
      show first r' _ p = first r' _ p
      apply first_congr
      intro q hq
      rw [moreRounds_congr_body greedy hr k q (hp.ahead hq)]

theorem leftmostFrom_congr {r r' : Regex} (at_ : Nat) (before : Option Char) (rest : List Char)
    (h : ∀ p, Place.Leads ⟨before, rest⟩ p → matchAt r p = matchAt r' p) :
    leftmostFrom r at_ before rest = leftmostFrom r' at_ before rest := by
  induction rest generalizing at_ before with
  | nil => rw [leftmostFrom, leftmostFrom, h _ (.refl _)]
  | cons c rest ih =>
    rw [leftmostFrom, leftmostFrom, h _ (.refl _)]
    cases matchAt r' ⟨before, c :: rest⟩ with
    | some n => rfl
    | none => exact ih _ _ fun p hp => h p (.pass hp)

theorem leftmostFrom_eq_none_iff {r : Regex} (at_ : Nat) (before : Option Char)
    (rest : List Char) :
    leftmostFrom r at_ before rest = none ↔
      ∀ p, Place.Leads ⟨before, rest⟩ p → matchAt r p = none := by
  induction rest generalizing at_ before with
  | nil =>
    rw [leftmostFrom]
    constructor
    · intro h p hp
      rw [hp.eq_of_rest_nil rfl]
      cases hm : matchAt r ⟨before, []⟩ with
      | none => rfl
      | some n => simp [hm] at h
    · intro h
      rw [h _ (.refl _)]
  | cons c rest ih =>
    rw [leftmostFrom]
    cases hm : matchAt r ⟨before, c :: rest⟩ with
    | some n =>
      constructor
      · intro h
        cases h
      · intro h
        rw [h _ (.refl _)] at hm
        cases hm
    | none =>
      -- the places from here on are this one and those from the next character on
      show leftmostFrom r (at_ + 1) (some c) rest = none ↔ _
      rw [ih]
      constructor
      · intro h p hp
        cases hp with
        | refl => exact hm
        | pass hp => exact h p hp
      · exact fun h p hp => h p (.pass hp)

/-- The search gives the leftmost match, and the preferred one among those that start there. -/
theorem search_eq_leftmost (r : Regex) (text : List Char) : search r text = leftmost r text := by
  have hwithin : ∀ p, (Place.start text).Leads p → Place.Within text p :=
    fun p hp c hc => hp.suffix.subset hc
  have hmatch : ∀ p, (Place.start text).Leads p →
      first r leftOver p = match prune text r with
        | some r' => first r' leftOver p
        | none => none := fun p hp => first_prune text r leftOver p (hwithin p hp)
  -- an expression that is pruned altogether has no answer at any place of the text
  unfold search
  cases hprune : prune text r with
  | none =>
    symm
    apply (leftmostFrom_eq_none_iff 0 none text).mpr
    intro p hp
    rw [matchAt_eq, hmatch p hp, hprune]
    rfl
  | some r' =>
    show searchMarked r' text = leftmost r text
    rw [searchMarked_eq_leftmost]
    apply leftmostFrom_congr
    intro p hp
    rw [matchAt_eq, matchAt_eq, hmatch p hp, hprune]

end Regex

end SecretScan
