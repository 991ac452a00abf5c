import SecretScan.Proofs.Regex.Matches

/-!
# Expressions whose matches contain others

A check on two expressions from which it follows, for every text, that each match of one of them
contains a match of the other (`Regex.Matches.of_needs`).  The check looks for a piece of the
expression that begins with the other one: literally, part by part, or because both stand for
finitely many words and each word of the piece begins with a word of the other one.
-/

namespace SecretScan

/-! ## 1. Inclusion of sets -/

namespace CharSet

/-- The members of a set that is put together from single characters. -/
def listed : CharSet → Option (List Nat)
  | range lo hi => if lo = hi then some [lo] else none
  | union s t => match listed s, listed t with
    | some xs, some ys => some (xs ++ ys)
    | _, _ => none
  | _ => none

theorem mem_of_listed {s : CharSet} {xs : List Nat} (h : s.listed = some xs) {c : Nat}
    (hc : s.mem c = true) : c ∈ xs := by
  -- only single characters and unions of them are listed
  induction s generalizing xs with
  | range lo hi =>
    rw [listed] at h
    split_ifs at h with heq
    simp only [Option.some.injEq] at h
    subst h heq
    simp only [mem, Bool.and_eq_true, decide_eq_true_eq] at hc
    exact List.mem_singleton.mpr (by omega)
  | union s t ihs iht =>
    rw [listed] at h
    split at h
    next xs ys hs ht =>
      cases h
      rw [mem, Bool.or_eq_true] at hc
      rcases hc with hc | hc
      · exact List.mem_append_left _ (ihs hs hc)
      · exact List.mem_append_right _ (iht ht hc)
    next => cases h
  | _ => cases h

/-- Whether the members of one set are seen to be members of another one. -/
def isWithin (s t : CharSet) : Bool :=
  match s.listed with
  | some xs => xs.all t.mem
  | none => s = t

theorem has_of_isWithin {s t : CharSet} (h : s.isWithin t = true) {c : Char}
    (hc : s.has c = true) : t.has c = true := by
  rw [isWithin] at h
  split at h
  next xs hxs => exact List.all_eq_true.mp h _ (mem_of_listed hxs hc)
  next =>
    rw [decide_eq_true_eq] at h
    rwa [← h]

end CharSet

namespace Regex

/-! ## 2. Expressions one after the other -/

/-- The expressions match one after the other. -/
def MatchesAll : List Regex → Place → Place → Prop
  | [], p, q => q = p
  | r :: rs, p, q => ∃ t, Matches r p t ∧ MatchesAll rs t q

theorem matchesAll_append {rs ss : List Regex} {p q : Place} :
    MatchesAll (rs ++ ss) p q ↔ ∃ t, MatchesAll rs p t ∧ MatchesAll ss t q := by
  induction rs generalizing p with
  | nil => exact ⟨fun h => ⟨p, rfl, h⟩, fun ⟨t, ht, h⟩ => ht ▸ h⟩
  | cons r rs ih =>
    constructor
    · rintro ⟨t, hr, h⟩
      obtain ⟨u, hrs, hss⟩ := ih.mp h
      exact ⟨u, ⟨t, hr, hrs⟩, hss⟩
    · rintro ⟨u, ⟨t, hr, hrs⟩, hss⟩
      exact ⟨t, hr, ih.mpr ⟨u, hrs, hss⟩⟩

theorem matchesAll_singleton {r : Regex} {p q : Place} : MatchesAll [r] p q ↔ Matches r p q :=
  ⟨fun ⟨_, h, hq⟩ => hq ▸ h, fun h => ⟨q, h, rfl⟩⟩

/-- What an expression is a sequence of. -/
def parts : Regex → List Regex
  | .empty => []
  | .seq r s => parts r ++ parts s
  | r => [r]

theorem matchesAll_parts {r : Regex} {p q : Place} : MatchesAll r.parts p q ↔ Matches r p q := by
  induction r generalizing p q with
  | empty => exact Iff.rfl
  | seq r s ihr ihs =>
    rw [parts, matchesAll_append]
    exact exists_congr fun t => and_congr ihr ihs
  | _ => exact matchesAll_singleton

/-! ## 3. Expressions for finitely many words -/

/-- The words that an expression without repetitions and conditions stands for. -/
def words : Regex → Option (List (List CharSet))
  | .empty => some [[]]
  | .leaf s => some [[s]]
  | .seq r s => match words r, words s with
    | some vs, some ws => some (vs.flatMap fun v => ws.map (v ++ ·))
    | _, _ => none
  | .alt r s => match words r, words s with
    | some vs, some ws => some (vs ++ ws)
    | _, _ => none
  | _ => none

theorem matches_iff_words {r : Regex} {ws : List (List CharSet)} (h : words r = some ws)
    {p q : Place} : Matches r p q ↔ ∃ w ∈ ws, MatchesAll (w.map .leaf) p q := by
  induction r generalizing ws p q with
  | empty =>
    cases h
    exact ⟨fun hq => ⟨[], List.mem_singleton_self _, hq⟩,
      fun ⟨w, hw, hq⟩ => by rw [List.mem_singleton.mp hw] at hq; exact hq⟩
  | leaf s =>
    cases h
    simp only [List.mem_singleton, exists_eq_left, List.map_cons, List.map_nil,
      matchesAll_singleton]
  | seq r s ihr ihs =>
    rw [words] at h
    split at h
    next vs ws' hvs hws =>
      cases h
      simp only [List.mem_flatMap, List.mem_map]
      -- a word of the sequence is a word of each part, one after the other
      constructor
      · rintro ⟨t, hr, hs⟩
        obtain ⟨v, hv, hpt⟩ := (ihr hvs).mp hr
        obtain ⟨w, hw, htq⟩ := (ihs hws).mp hs
        refine ⟨v ++ w, ⟨v, hv, w, hw, rfl⟩, ?_⟩
        rw [List.map_append, matchesAll_append]
        exact ⟨t, hpt, htq⟩
      · rintro ⟨_, ⟨v, hv, w, hw, rfl⟩, h⟩
        rw [List.map_append, matchesAll_append] at h
        obtain ⟨t, hpt, htq⟩ := h
        exact ⟨t, (ihr hvs).mpr ⟨v, hv, hpt⟩, (ihs hws).mpr ⟨w, hw, htq⟩⟩
    next => cases h
  | alt r s ihr ihs =>
    rw [words] at h
    split at h
    next vs ws' hvs hws =>
      cases h
      simp only [List.mem_append, or_and_right, exists_or]
      exact or_congr (ihr hvs) (ihs hws)
    next => cases h
  | look l => cases h
  | plus greedy r => cases h

/-- Whether each character of one word is seen to be allowed by the other word, which is not longer.
-/
def beginsWord : List CharSet → List CharSet → Bool
  | [], _ => true
  | _ :: _, [] => false
  | s :: v, t :: w => t.isWithin s && beginsWord v w

theorem matchesAll_of_beginsWord {v w : List CharSet} (h : beginsWord v w = true) {p q : Place}
    (hw : MatchesAll (w.map .leaf) p q) : ∃ t, MatchesAll (v.map .leaf) p t := by
  induction v generalizing w p with
  | nil => exact ⟨p, rfl⟩
  | cons s v ih =>
    cases w with
    | nil => cases h
    | cons t w =>
      rw [beginsWord, Bool.and_eq_true] at h
      -- both words take the character in front
      obtain ⟨u, ⟨c, rest, hrest, hc, rfl⟩, hu⟩ := hw
      obtain ⟨q', hq'⟩ := ih h.2 hu
      exact ⟨q', _, ⟨c, rest, hrest, CharSet.has_of_isWithin h.1 hc, rfl⟩, hq'⟩

/-! ## 4. The check -/

/-- Whether each match of `r` is seen to begin with a match of `f`. -/
def begins (f r : Regex) : Bool :=
  f.parts.isPrefixOf r.parts || match words f, words r with
    | some vs, some ws => ws.all fun w => vs.any fun v => beginsWord v w
    | _, _ => false

theorem Matches.of_begins {f r : Regex} (h : begins f r = true) {p q : Place}
    (hr : Matches r p q) : ∃ t, Matches f p t := by
  rw [begins, Bool.or_eq_true] at h
  -- the parts of one are the first parts of the other, or words are compared with words
  rcases h with h | h
  · obtain ⟨rest, hparts⟩ := List.isPrefixOf_iff_prefix.mp h
    rw [← matchesAll_parts, ← hparts, matchesAll_append] at hr
    obtain ⟨t, hf, -⟩ := hr
    exact ⟨t, matchesAll_parts.mp hf⟩
  · split at h
    next vs ws hvs hws =>
      obtain ⟨w, hw, hspell⟩ := (matches_iff_words hws).mp hr
      obtain ⟨v, hv, hbegins⟩ := List.any_eq_true.mp (List.all_eq_true.mp h w hw)
      obtain ⟨t, ht⟩ := matchesAll_of_beginsWord hbegins hspell
      exact ⟨t, (matches_iff_words hvs).mpr ⟨v, hv, ht⟩⟩
    next => cases h

/-- Whether each match of an expression is seen to contain a match of one of `fs`. -/
def needs (fs : List Regex) : Regex → Bool
  | .alt r s => needs fs r && needs fs s
  | .seq r s => (fs.any fun f => begins f (.seq r s)) || needs fs r || needs fs s
  | .plus _ r => needs fs r
  | r => fs.any fun f => begins f r

/-- A match of one of some expressions lies ahead. -/
def AnyAhead (fs : List Regex) (p : Place) : Prop :=
  ∃ f ∈ fs, ∃ p' q', p.Leads p' ∧ Matches f p' q'

theorem AnyAhead.of_leads {fs : List Regex} {p t : Place} (hlead : p.Leads t)
    (h : AnyAhead fs t) : AnyAhead fs p := by
  obtain ⟨f, hf, p', q', hp', hmatch⟩ := h
  exact ⟨f, hf, p', q', hlead.trans hp', hmatch⟩

theorem AnyAhead.of_any_begins {fs : List Regex} {r : Regex}
    (h : (fs.any fun f => begins f r) = true) {p q : Place} (hr : Matches r p q) :
    AnyAhead fs p := by
  obtain ⟨f, hf, hbegins⟩ := List.any_eq_true.mp h
  obtain ⟨t, ht⟩ := hr.of_begins hbegins
  exact ⟨f, hf, p, t, .refl p, ht⟩

/-- An expression that passes the check matches only where one of the others matches. -/
theorem Matches.of_needs {fs : List Regex} {r : Regex} (h : needs fs r = true) {p q : Place}
    (hr : Matches r p q) : AnyAhead fs p := by
  induction r generalizing p q with
  | empty => exact .of_any_begins h hr
  | leaf s => exact .of_any_begins h hr
  | look l => exact .of_any_begins h hr
  | seq r s ihr ihs =>
    -- the piece that is found is the sequence itself or lies within one of its parts
    rw [needs, Bool.or_eq_true, Bool.or_eq_true, or_assoc] at h
    rcases h with hany | hneeds | hneeds
    · exact .of_any_begins hany hr
    · obtain ⟨t, hr, -⟩ := hr
      exact ihr hneeds hr
    · obtain ⟨t, hr, hs⟩ := hr
      exact (ihs hneeds hs).of_leads hr.leads
  | alt r s ihr ihs =>
    -- either alternative may be the one that matches
    rw [needs, Bool.and_eq_true] at h
    rcases hr with hr | hs
    · exact ihr h.1 hr
    · exact ihs h.2 hs
  | plus greedy r ih =>
    -- there is a first round
    obtain ⟨t, hfirst, -⟩ := Relation.TransGen.head'_iff.mp hr
    exact ih h hfirst

/-- The expressions between which an expression is a choice. -/
def options : Regex → List Regex
  | .alt r s => options r ++ options s
  | r => [r]

theorem matches_of_mem_options {f r : Regex} (hf : f ∈ options r) {p q : Place}
    (h : Matches f p q) : Matches r p q := by
  induction r with
  | alt r s ihr ihs =>
    rcases List.mem_append.mp hf with hf | hf
    · exact .inl (ihr hf)
    · exact .inr (ihs hf)
  | _ =>
    rw [List.mem_singleton.mp hf] at h
    exact h

end Regex

end SecretScan
