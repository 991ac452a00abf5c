import SecretScan.Proofs.Regex.Search

/-!
# The relation behind a search

`Regex.Matches r p q` says that `r` can match what lies between the places `p` and `q`, whatever the
order of preference.  A search has an answer exactly if the relation holds somewhere in the text
(`Regex.search_eq_none_iff`), and its answer is the preferred match at the first place that has one
(`Regex.search_eq_some_iff`).  For a choice between expressions, that is the match of one of them
which starts first, and among those that start together the one of the expression listed first
(`Regex.search_choice`).
-/

namespace SecretScan.Regex

variable {β : Type}

/-! ## 1. Matches and trials -/

/-- The expression can match what lies between two places. -/
def Matches : Regex → Place → Place → Prop
  | .empty, p, q => q = p
  | .leaf s, p, q => ∃ c rest, p.rest = c :: rest ∧ s.has c = true ∧ q = ⟨some c, rest⟩
  | .look l, p, q => q = p ∧ l.holds p = true
  | .seq r s, p, q => ∃ t, Matches r p t ∧ Matches s t q
  | .alt r s, p, q => Matches r p q ∨ Matches s p q
  | .plus _ r, p, q => Relation.TransGen (Matches r) p q

theorem Matches.leads {r : Regex} {p q : Place} (h : Matches r p q) : p.Leads q := by
  induction r generalizing p q with
  | empty =>
    obtain rfl : q = p := h
    exact .refl q
  | leaf s =>
    obtain ⟨before, rest⟩ := p
    obtain ⟨c, rest', hrest, -, rfl⟩ := h
    obtain rfl : rest = c :: rest' := hrest
    exact .step before c rest'
  | look l =>
    obtain ⟨rfl, -⟩ := h
    exact .refl q
  | seq r s ihr ihs =>
    obtain ⟨t, hr, hs⟩ := h
    exact (ihr hr).trans (ihs hs)
  | alt r s ihr ihs => exact h.elim ihr ihs
  | plus greedy r ih =>
    -- every round leads further, and so do all of them
    change Relation.TransGen (Matches r) p q at h
    induction h with
    | single h => exact ih h
    | tail _ h ihrounds => exact ihrounds.trans (ih h)

theorem orElse_eq_some {x y : Option β} {b : β} (h : (x <|> y) = some b) :
    x = some b ∨ y = some b := by
  cases x with
  | none => exact .inr h
  | some a => exact .inl h

theorem isSome_orElse {x y : Option β} : (x <|> y).isSome ↔ x.isSome ∨ y.isSome := by
  cases x <;> simp

theorem moreRounds_some {greedy : Bool} {r : Regex} {k : Place → Option β} {p : Place} {b : β}
    (hr : ∀ (k : Place → Option β) p, first r k p = some b → ∃ q, Matches r p q ∧ k q = some b)
    (h : moreRounds greedy (first r) k p = some b) :
    ∃ q, Relation.ReflTransGen (Matches r) p q ∧ k q = some b := by
  -- a further round starts where fewer characters are left
  induction hn : p.rest.length using Nat.strongRecOn generalizing p with
  | ind n ih =>
    -- the answer comes from one more round or from what follows, whichever is preferred
    have hor : first r (fun q => if q.rest.length < p.rest.length
        then moreRounds greedy (first r) k q else none) p = some b ∨ k p = some b := by
      rw [moreRounds] at h
      cases greedy with
      | true => exact orElse_eq_some h
      | false => exact (orElse_eq_some h).symm
    rcases hor with hagain | hafter
    · obtain ⟨t, ht, hk⟩ := hr _ p hagain
      by_cases hlt : t.rest.length < p.rest.length
      · rw [if_pos hlt] at hk
        obtain ⟨q, hq, hb⟩ := ih _ (hn ▸ hlt) hk rfl
        exact ⟨q, .head ht hq, hb⟩
      · rw [if_neg hlt] at hk
        cases hk
    · exact ⟨p, .refl, hafter⟩

/-- An answer is one of what comes after some match. -/
theorem matches_of_first {r : Regex} {k : Place → Option β} {p : Place} {b : β}
    (h : first r k p = some b) : ∃ q, Matches r p q ∧ k q = some b := by
  induction r generalizing k p with
  | empty => exact ⟨p, rfl, h⟩
  | leaf s =>
    obtain ⟨before, rest⟩ := p
    cases rest with
    | nil => cases h
    | cons c rest =>
      -- the leaf asks what follows at one place only
      change (if s.has c = true then k ⟨some c, rest⟩ else none) = some b at h
      by_cases hc : s.has c = true
      · rw [if_pos hc] at h
        exact ⟨_, ⟨c, rest, rfl, hc, rfl⟩, h⟩
      · rw [if_neg hc] at h
        cases h
  | look l =>
    rw [first] at h
    by_cases hl : l.holds p = true
    · rw [if_pos hl] at h
      exact ⟨p, ⟨rfl, hl⟩, h⟩
    · rw [if_neg hl] at h
      cases h
  | seq r s ihr ihs =>
    obtain ⟨t, hr, ht⟩ := ihr h
    obtain ⟨q, hs, hq⟩ := ihs ht
    exact ⟨q, ⟨t, hr, hs⟩, hq⟩
  | alt r s ihr ihs =>
    rcases orElse_eq_some h with h | h
    · obtain ⟨q, hr, hq⟩ := ihr h
      exact ⟨q, .inl hr, hq⟩
    · obtain ⟨q, hs, hq⟩ := ihs h
      exact ⟨q, .inr hs, hq⟩
  | plus greedy r ih =>
    obtain ⟨t, hr, ht⟩ := ih h
    -- a first round that takes nothing is the whole match
    by_cases hlt : t.rest.length < p.rest.length
    · rw [if_pos hlt] at ht
      obtain ⟨q, hrounds, hq⟩ := moreRounds_some (fun _ _ h => ih h) ht
      exact ⟨q, Relation.TransGen.head' hr hrounds, hq⟩
    · rw [if_neg hlt] at ht
      exact ⟨t, .single hr, ht⟩

theorem moreRounds_isSome {greedy : Bool} {r : Regex} {k : Place → Option β} {p q : Place}
    (hr : ∀ (k : Place → Option β) {p q}, Matches r p q → (k q).isSome → (first r k p).isSome)
    (h : Relation.ReflTransGen (Matches r) p q) (hk : (k q).isSome) :
    (moreRounds greedy (first r) k p).isSome := by
  induction hn : p.rest.length using Nat.strongRecOn generalizing p with
  | ind n ih =>
    have hor : (first r (fun q => if q.rest.length < p.rest.length
        then moreRounds greedy (first r) k q else none) p).isSome ∨ (k p).isSome := by
      -- rounds that take nothing are passed over
      induction h using Relation.ReflTransGen.head_induction_on with
      | refl => exact .inr hk
      | @head p t hpt htq ihrounds =>
        by_cases hlt : t.rest.length < p.rest.length
        · left
          apply hr _ hpt
          rw [if_pos hlt]
          exact ih _ (hn ▸ hlt) htq rfl
        · obtain rfl := hpt.leads.eq_of_length_le (by omega)
          exact ihrounds hn
    rw [moreRounds]
    cases greedy with
    | true => exact isSome_orElse.mpr hor
    | false => exact isSome_orElse.mpr hor.symm

/-- If what comes after a match has an answer, then so has the trial. -/
theorem first_isSome {r : Regex} {k : Place → Option β} {p q : Place} (h : Matches r p q)
    (hk : (k q).isSome) : (first r k p).isSome := by
  induction r generalizing k p q with
  | empty =>
    obtain rfl : q = p := h
    exact hk
  | leaf s =>
    obtain ⟨before, rest⟩ := p
    obtain ⟨c, rest', hrest, hc, rfl⟩ := h
    obtain rfl : rest = c :: rest' := hrest
    rw [first]
    simp only [hc, ↓reduceIte]
    exact hk
  | look l =>
    obtain ⟨rfl, hl⟩ := h
    rw [first, if_pos hl]
    exact hk
  | seq r s ihr ihs =>
    obtain ⟨t, hr, hs⟩ := h
    exact ihr hr (ihs hs hk)
  | alt r s ihr ihs =>
    rw [first, isSome_orElse]
    rcases h with h | h
    · exact .inl (ihr h hk)
    · exact .inr (ihs h hk)
  | plus greedy r ih =>
    change Relation.TransGen (Matches r) p q at h
    rw [first]
    -- after rounds that take nothing, the first one that takes a character counts as the first
    induction h using Relation.TransGen.head_induction_on with
    | @single p hpq =>
      apply ih hpq
      by_cases hlt : q.rest.length < p.rest.length
      · rw [if_pos hlt]
        exact moreRounds_isSome (fun _ _ _ h hk => ih h hk) .refl hk
      · rw [if_neg hlt]
        exact hk
    | @head p t hpt htq ihrounds =>
      by_cases hlt : t.rest.length < p.rest.length
      · apply ih hpt
        rw [if_pos hlt]
        exact moreRounds_isSome (fun _ _ _ h hk => ih h hk) htq.to_reflTransGen hk
      · obtain rfl := hpt.leads.eq_of_length_le (by omega)
        exact ihrounds

/-! ## 2. Matches and searches -/

theorem matches_of_matchAt {r : Regex} {p : Place} {n : Nat} (h : matchAt r p = some n) :
    ∃ q, Matches r p q ∧ n + q.rest.length = p.rest.length := by
  obtain ⟨q, hq, hn⟩ := matches_of_first h
  refine ⟨q, hq, ?_⟩
  have := hq.leads.length_le
  simp only [Option.some.injEq] at hn
  omega

theorem matchAt_eq_none_iff {r : Regex} {p : Place} :
    matchAt r p = none ↔ ∀ q, ¬ Matches r p q := by
  constructor
  · intro h q hq
    -- what comes after always has an answer here: the characters left over
    have hsome : (matchAt r p).isSome := first_isSome hq rfl
    rw [h] at hsome
    cases hsome
  · intro h
    cases hmatch : matchAt r p with
    | none => rfl
    | some n =>
      obtain ⟨q, hq, -⟩ := matches_of_matchAt hmatch
      exact absurd hq (h q)

/-- `p` is the first place from `start` on that has a match, and the preferred match there takes `n`
characters. -/
def FirstMatch (r : Regex) (start p : Place) (n : Nat) : Prop :=
  start.Leads p ∧ matchAt r p = some n ∧
    ∀ q, start.Leads q → p.rest.length < q.rest.length → matchAt r q = none

theorem firstMatch_of_some {r : Regex} {start p : Place} {m n : Nat}
    (hhere : matchAt r start = some m) : FirstMatch r start p n ↔ p = start ∧ n = m := by
  constructor
  · rintro ⟨hp, hmatch, hbefore⟩
    -- no place comes before the first one, so the match is here
    have hp' : p = start := by
      by_contra hne
      have hnone := hbefore start (.refl _) (hp.length_lt hne)
      rw [hhere] at hnone
      cases hnone
    subst hp'
    rw [hhere, Option.some.injEq] at hmatch
    exact ⟨rfl, hmatch.symm⟩
  · rintro ⟨rfl, rfl⟩
    exact ⟨.refl _, hhere, fun q hq hlt => absurd hlt (Nat.not_lt.mpr hq.length_le)⟩

theorem not_firstMatch_nil {r : Regex} {before : Option Char} {p : Place} {n : Nat}
    (hhere : matchAt r ⟨before, []⟩ = none) : ¬ FirstMatch r ⟨before, []⟩ p n := by
  rintro ⟨hp, hmatch, -⟩
  rw [hp.eq_of_rest_nil rfl, hhere] at hmatch
  cases hmatch

theorem firstMatch_cons {r : Regex} {before : Option Char} {c : Char} {rest : List Char} {p : Place}
    {n : Nat} (hhere : matchAt r ⟨before, c :: rest⟩ = none) :
    FirstMatch r ⟨before, c :: rest⟩ p n ↔ FirstMatch r ⟨some c, rest⟩ p n := by
  constructor
  · rintro ⟨hp, hmatch, hbefore⟩
    cases hp with
    | refl =>
      rw [hhere] at hmatch
      cases hmatch
    | pass hp => exact ⟨hp, hmatch, fun q hq hlt => hbefore q (.pass hq) hlt⟩
  · rintro ⟨hp, hmatch, hbefore⟩
    refine ⟨.pass hp, hmatch, fun q hq hlt => ?_⟩
    cases hq with
    | refl => exact hhere
    | pass hq => exact hbefore q hq hlt

theorem leftmostFrom_eq_some_iff {r : Regex} {at_ : Nat} {before : Option Char} {rest : List Char}
    {i n : Nat} :
    leftmostFrom r at_ before rest = some (i, n) ↔
      ∃ p, FirstMatch r ⟨before, rest⟩ p n ∧ i + p.rest.length = at_ + rest.length := by
  -- the first place is the one at hand, or else the first one from the next character on
  induction rest generalizing at_ before with
  | nil =>
    rw [leftmostFrom]
    cases hhere : matchAt r ⟨before, []⟩ with
    | none => simp [not_firstMatch_nil hhere]
    | some m => simp [firstMatch_of_some hhere, eq_comm, and_comm]
  | cons c rest ih =>
    rw [leftmostFrom]
    cases hhere : matchAt r ⟨before, c :: rest⟩ with
    | none =>
      simp only [ih, firstMatch_cons hhere, List.length_cons]
      rw [Nat.add_right_comm, Nat.add_assoc]
    | some m => simp [firstMatch_of_some hhere, eq_comm, and_comm]

/-- The answer of a search is the preferred match at the first place that has one. -/
theorem search_eq_some_iff {r : Regex} {text : List Char} {i n : Nat} :
    search r text = some (i, n) ↔
      ∃ p, (Place.start text).Leads p ∧ i + p.rest.length = text.length ∧ matchAt r p = some n ∧
        ∀ q, (Place.start text).Leads q → p.rest.length < q.rest.length → matchAt r q = none := by
  rw [search_eq_leftmost, leftmost, leftmostFrom_eq_some_iff, Nat.zero_add]
  constructor
  · rintro ⟨p, ⟨hp, hmatch, hbefore⟩, hi⟩
    exact ⟨p, hp, hi, hmatch, hbefore⟩
  · rintro ⟨p, hp, hi, hmatch, hbefore⟩
    exact ⟨p, ⟨hp, hmatch, hbefore⟩, hi⟩

/-- A search fails exactly if there is no match anywhere in the text. -/
theorem search_eq_none_iff {r : Regex} {text : List Char} :
    search r text = none ↔ ∀ p q, (Place.start text).Leads p → ¬ Matches r p q := by
  rw [search_eq_leftmost, leftmost, leftmostFrom_eq_none_iff]
  constructor
  · exact fun h p q hp => matchAt_eq_none_iff.mp (h p hp) q
  · exact fun h p hp => matchAt_eq_none_iff.mpr fun q => h p q hp

theorem matchesIn_iff {r : Regex} {text : List Char} :
    matchesIn r text = true ↔ ∃ p q, (Place.start text).Leads p ∧ Matches r p q := by
  rw [matchesIn, Option.isSome_iff_ne_none, ne_eq, search_eq_none_iff]
  simp only [not_forall, not_not, exists_prop]

/-! ## 3. Choices -/

theorem matchAt_choice {rs : List Regex} (hne : rs ≠ []) (p : Place) :
    matchAt (Expr.choice rs) p = rs.findSome? fun r => matchAt r p := by
  induction rs with
  | nil => exact absurd rfl hne
  | cons r rest ih =>
    cases rest with
    | nil =>
      rw [Expr.choice, List.findSome?_cons, List.findSome?_nil]
      cases matchAt r p <;> rfl
    | cons s rest =>
      rw [Expr.choice, List.findSome?_cons, ← ih (List.cons_ne_nil s rest)]
      · show (matchAt r p <|> matchAt (Expr.choice (s :: rest)) p) = _
        cases matchAt r p <;> rfl
      · exact List.cons_ne_nil s rest

/-- The match of the expression at `i` starts before those of the others, or together with some of
them and then `i` is the first of these expressions. -/
def Earliest (rs : List Regex) (text : List Char) (i : Nat) (span : Nat × Nat) : Prop :=
  (∃ r, rs[i]? = some r ∧ search r text = some span) ∧
    ∀ j r span', rs[j]? = some r → search r text = some span' →
      span.1 < span'.1 ∨ span.1 = span'.1 ∧ i ≤ j

theorem Earliest.unique {rs : List Regex} {text : List Char} {i j : Nat} {span span' : Nat × Nat}
    (h : Earliest rs text i span) (h' : Earliest rs text j span') : span = span' := by
  obtain ⟨⟨r, hr, hspan⟩, hleast⟩ := h
  obtain ⟨⟨r', hr', hspan'⟩, hleast'⟩ := h'
  have h1 := hleast j r' span' hr' hspan'
  have h2 := hleast' i r span hr hspan
  obtain rfl : i = j := by omega
  rw [hr, Option.some.injEq] at hr'
  rw [← hr', hspan, Option.some.injEq] at hspan'
  exact hspan'

/-- The match of a choice is the earliest one of an alternative. -/
theorem earliest_of_search_choice {rs : List Regex} (hne : rs ≠ []) {text : List Char}
    {span : Nat × Nat} (h : search (Expr.choice rs) text = some span) :
    ∃ i, Earliest rs text i span := by
  obtain ⟨start, length⟩ := span
  obtain ⟨p, hp, hstart, hmatch, hbefore⟩ := search_eq_some_iff.mp h
  rw [matchAt_choice hne, List.findSome?_eq_some_iff] at hmatch
  obtain ⟨first, r, rest, rfl, hr, hfirst⟩ := hmatch
  -- no alternative has a match before the place of the match
  have hnone : ∀ s ∈ first ++ r :: rest, ∀ q, (Place.start text).Leads q →
      p.rest.length < q.rest.length → matchAt s q = none := by
    intro s hs q hq hlt
    have hq := hbefore q hq hlt
    rw [matchAt_choice hne, List.findSome?_eq_none_iff] at hq
    exact hq s hs
  refine ⟨first.length, ⟨r, by simp, ?_⟩, ?_⟩
  · exact search_eq_some_iff.mpr ⟨p, hp, hstart, hr, hnone r (by simp)⟩
  · rintro j s ⟨start', length'⟩ hj hs
    obtain ⟨p', hp', hstart', hmatch', -⟩ := search_eq_some_iff.mp hs
    have hmem : s ∈ first ++ r :: rest := List.mem_of_getElem? hj
    by_cases hlt : p.rest.length < p'.rest.length
    · rw [hnone s hmem p' hp' hlt] at hmatch'
      cases hmatch'
    · by_cases heq : p'.rest.length < p.rest.length
      · left
        show start < start'
        omega
      · right
        refine ⟨by show start = start'; omega, ?_⟩
        -- both start at the same place, where the alternatives before `r` have no match
        have hpp : p' = p := by
          rcases hp.total hp' with hlead | hlead
          · exact hlead.eq_of_length_le (by omega)
          · exact (hlead.eq_of_length_le (by omega)).symm
        by_contra hji
        have hmem : s ∈ first := by
          rw [List.getElem?_append_left (by omega)] at hj
          exact List.mem_of_getElem? hj
        rw [hpp, hfirst s hmem] at hmatch'
        cases hmatch'

/-- The search for a choice gives the earliest match of an alternative. -/
theorem search_choice {rs : List Regex} (hne : rs ≠ []) {text : List Char} {span : Nat × Nat} :
    search (Expr.choice rs) text = some span ↔ ∃ i, Earliest rs text i span := by
  constructor
  · exact earliest_of_search_choice hne
  · rintro ⟨i, hi⟩
    cases hsearch : search (Expr.choice rs) text with
    | some span' =>
      obtain ⟨j, hj⟩ := earliest_of_search_choice hne hsearch
      rw [hi.unique hj]
    | none =>
      -- the alternative matches at a place where the choice is said to match nowhere
      obtain ⟨⟨r, hr, hspan⟩, -⟩ := hi
      obtain ⟨p, hp, -, hmatch, -⟩ := search_eq_some_iff.mp hspan
      have hnone : matchAt (Expr.choice rs) p = none := matchAt_eq_none_iff.mpr fun q =>
        search_eq_none_iff.mp hsearch p q hp
      rw [matchAt_choice hne, List.findSome?_eq_none_iff] at hnone
      rw [hnone r (List.mem_of_getElem? hr)] at hmatch
      cases hmatch

/-- Expressions to choose from can be chosen from in two steps. -/
theorem search_choice_append {rs ss : List Regex} (hrs : rs ≠ []) (hss : ss ≠ [])
    (text : List Char) :
    search (Expr.choice (rs ++ ss)) text =
      search (Expr.choice [Expr.choice rs, Expr.choice ss]) text := by
  have hne : rs ++ ss ≠ [] := List.append_ne_nil_of_left_ne_nil hrs ss
  rw [search_eq_leftmost, search_eq_leftmost, leftmost, leftmost]
  -- it is enough to compare the matches at one place
  refine leftmostFrom_congr 0 none text fun p _ => ?_
  rw [matchAt_choice hne, matchAt_choice (List.cons_ne_nil _ _), List.findSome?_append,
    List.findSome?_cons, List.findSome?_cons, List.findSome?_nil, matchAt_choice hrs,
    matchAt_choice hss]
  cases rs.findSome? fun r => matchAt r p with
  | some n => rfl
  | none => cases ss.findSome? fun r => matchAt r p <;> rfl

theorem Earliest.pair {r s : Regex} {text : List Char} {i : Nat} {span : Nat × Nat}
    (hspan : ∃ x, [r, s][i]? = some x ∧ search x text = some span)
    (hr : ∀ span', search r text = some span' → span.1 < span'.1 ∨ span.1 = span'.1 ∧ i ≤ 0)
    (hs : ∀ span', search s text = some span' → span.1 < span'.1 ∨ span.1 = span'.1 ∧ i ≤ 1) :
    Earliest [r, s] text i span := by
  refine ⟨hspan, ?_⟩
  rintro (_ | _ | j) x span' hx hsearch <;> cases hx
  · exact hr span' hsearch
  · exact hs span' hsearch

/-- The match of a second expression is chosen only if it starts before that of the first one. -/
theorem search_choice_pair {r s : Regex} {text : List Char} {span : Nat × Nat}
    (h : search r text = some span) :
    search (Expr.choice [r, s]) text =
      some (match search s text with
        | some span' => if span'.1 < span.1 then span' else span
        | none => span) := by
  rw [search_choice (List.cons_ne_nil r [s])]
  have hr : ∀ span', search r text = some span' → span' = span :=
    fun span' h' => Option.some.inj (h'.symm.trans h)
  cases hs : search s text with
  | none =>
    refine ⟨0, .pair ⟨r, rfl, h⟩ (fun span' h' => ?_) fun span' h' => ?_⟩
    · rw [hr span' h']
      exact .inr ⟨rfl, le_rfl⟩
    · rw [hs] at h'
      cases h'
  | some span' =>
    have hs' : ∀ span'', search s text = some span'' → span'' = span' :=
      fun span'' h' => Option.some.inj (h'.symm.trans hs)
    by_cases hlt : span'.1 < span.1
    · simp only [hlt, if_true]
      refine ⟨1, .pair ⟨s, rfl, hs⟩ (fun span'' h' => ?_) fun span'' h' => ?_⟩
      · rw [hr span'' h']
        exact .inl hlt
      · rw [hs' span'' h']
        exact .inr ⟨rfl, le_rfl⟩
    · -- at the same start the first expression is preferred
      simp only [hlt, if_false]
      refine ⟨0, .pair ⟨r, rfl, h⟩ (fun span'' h' => ?_) fun span'' h' => ?_⟩
      · rw [hr span'' h']
        exact .inr ⟨rfl, le_rfl⟩
      · rw [hs' span'' h']
        omega

theorem matchesIn_choice {rs : List Regex} (hne : rs ≠ []) {text : List Char} :
    matchesIn (Expr.choice rs) text = true ↔ ∃ r ∈ rs, matchesIn r text = true := by
  rw [matchesIn, Option.isSome_iff_exists]
  constructor
  · rintro ⟨span, hspan⟩
    obtain ⟨i, ⟨r, hr, hsearch⟩, -⟩ := (search_choice hne).mp hspan
    exact ⟨r, List.mem_of_getElem? hr, by rw [matchesIn, hsearch]; rfl⟩
  · rintro ⟨r, hr, hmatch⟩
    obtain ⟨p, q, hp, hpq⟩ := matchesIn_iff.mp hmatch
    -- where one alternative matches, the choice does not fail
    apply Option.isSome_iff_exists.mp
    rw [Option.isSome_iff_ne_none]
    intro hnone
    have hp := matchAt_eq_none_iff.mpr fun q => search_eq_none_iff.mp hnone p q hp
    rw [matchAt_choice hne, List.findSome?_eq_none_iff] at hp
    exact matchAt_eq_none_iff.mp (hp r hr) q hpq

end SecretScan.Regex
