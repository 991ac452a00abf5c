import SecretScan.Proofs.Regex.Matches

/-!
# How far a match reaches

What the form of an expression tells of its matches in any text: the least number of characters that
a match takes (`Regex.minLength`), and the sets to which the first and the last of these characters
belong (`Regex.firsts`, `Regex.lasts`).
-/

namespace SecretScan

theorem Place.Leads.exists_last {p q : Place} (h : p.Leads q)
    (hlt : q.rest.length < p.rest.length) :
    ∃ front c, p.rest = front ++ c :: q.rest ∧ q.before = some c := by
  induction h with
  | refl => exact absurd hlt (Nat.lt_irrefl _)
  | @pass before c rest q h ih =>
    by_cases hrest : q.rest.length < rest.length
    · obtain ⟨front, d, hfront, hd⟩ := ih hrest
      exact ⟨c :: front, d, congrArg (c :: ·) hfront, hd⟩
    · obtain rfl := h.eq_of_length_le (Nat.not_lt.mp hrest)
      exact ⟨[], c, rfl, rfl⟩

namespace Regex

/-! ## 1. The length of a match -/

/-- A number of characters that every match takes at least. -/
def minLength : Regex → Nat
  | .empty => 0
  | .leaf _ => 1
  | .look _ => 0
  | .seq r s => minLength r + minLength s
  | .alt r s => min (minLength r) (minLength s)
  | .plus _ r => minLength r

theorem Matches.minLength_le {r : Regex} {p q : Place} (h : Matches r p q) :
    q.rest.length + minLength r ≤ p.rest.length := by
  induction r generalizing p q with
  | empty =>
    obtain rfl : q = p := h
    exact le_rfl
  | leaf s =>
    obtain ⟨c, rest, hrest, -, rfl⟩ := h
    rw [hrest]
    exact le_rfl
  | look l =>
    obtain ⟨rfl, -⟩ := h
    exact le_rfl
  | seq r s ihr ihs =>
    obtain ⟨t, hr, hs⟩ := h
    have hr := ihr hr
    have hs := ihs hs
    rw [minLength]
    omega
  | alt r s ihr ihs =>
    rw [minLength]
    rcases h with h | h
    · have := ihr h
      omega
    · have := ihs h
      omega
  | plus greedy r ih =>
    change Relation.TransGen (Matches r) p q at h
    rw [minLength]
    -- the first round takes that many, and later rounds give nothing back
    induction h with
    | single h => exact ih h
    | tail _ h ihrounds =>
      have := h.leads.length_le
      omega

/-- Whether a match may take no character. -/
def nullable : Regex → Bool
  | .empty => true
  | .leaf _ => false
  | .look _ => true
  | .seq r s => nullable r && nullable s
  | .alt r s => nullable r || nullable s
  | .plus _ r => nullable r

theorem nullable_iff {r : Regex} : nullable r = true ↔ minLength r = 0 := by
  induction r with
  | empty => simp [nullable, minLength]
  | leaf s => simp [nullable, minLength]
  | look l => simp [nullable, minLength]
  | seq r s ihr ihs =>
    rw [nullable, minLength, Bool.and_eq_true, ihr, ihs]
    omega
  | alt r s ihr ihs =>
    rw [nullable, minLength, Bool.or_eq_true, ihr, ihs]
    omega
  | plus greedy r ih => exact ih

theorem Matches.nullable_of_length_le {r : Regex} {p q : Place} (h : Matches r p q)
    (hle : p.rest.length ≤ q.rest.length) : nullable r = true := by
  have := h.minLength_le
  exact nullable_iff.mpr (by omega)

/-! ## 2. The ends of a match -/

/-- The sets of characters with which a match can begin. -/
def firsts : Regex → List CharSet
  | .empty => []
  | .leaf s => [s]
  | .look _ => []
  | .seq r s => if nullable r then firsts r ∪ firsts s else firsts r
  | .alt r s => firsts r ∪ firsts s
  | .plus _ r => firsts r

/-- The sets of characters with which a match can end. -/
def lasts : Regex → List CharSet
  | .empty => []
  | .leaf s => [s]
  | .look _ => []
  | .seq r s => if nullable s then lasts r ∪ lasts s else lasts s
  | .alt r s => lasts r ∪ lasts s
  | .plus _ r => lasts r

/-- A match that takes a character begins with one of the first sets. -/
theorem Matches.exists_first {r : Regex} {p q : Place} (h : Matches r p q)
    (hlt : q.rest.length < p.rest.length) :
    ∃ s ∈ firsts r, ∃ c rest, p.rest = c :: rest ∧ s.has c = true := by
  induction r generalizing p q with
  | empty =>
    obtain rfl : q = p := h
    exact absurd hlt (Nat.lt_irrefl _)
  | leaf s =>
    obtain ⟨c, rest, hrest, hc, rfl⟩ := h
    exact ⟨s, List.mem_singleton_self s, c, rest, hrest, hc⟩
  | look l =>
    obtain ⟨rfl, -⟩ := h
    exact absurd hlt (Nat.lt_irrefl _)
  | seq r s ihr ihs =>
    obtain ⟨t, hr, hs⟩ := h
    rw [firsts]
    -- if the first part takes nothing, the match begins with the second part
    by_cases hpt : t.rest.length < p.rest.length
    · obtain ⟨a, ha, hfirst⟩ := ihr hr hpt
      exact ⟨a, by split_ifs <;> simp [ha], hfirst⟩
    · obtain rfl := hr.leads.eq_of_length_le (by omega)
      obtain ⟨a, ha, hfirst⟩ := ihs hs hlt
      refine ⟨a, ?_, hfirst⟩
      rw [if_pos (hr.nullable_of_length_le le_rfl)]
      exact List.mem_union_iff.mpr (.inr ha)
  | alt r s ihr ihs =>
    rcases h with h | h
    · obtain ⟨a, ha, hfirst⟩ := ihr h hlt
      exact ⟨a, List.mem_union_iff.mpr (.inl ha), hfirst⟩
    · obtain ⟨a, ha, hfirst⟩ := ihs h hlt
      exact ⟨a, List.mem_union_iff.mpr (.inr ha), hfirst⟩
  | plus greedy r ih =>
    change Relation.TransGen (Matches r) p q at h
    -- the first round that takes a character begins the match
    induction h using Relation.TransGen.head_induction_on with
    | single h => exact ih h hlt
    | @head p t hpt _ ihrounds =>
      by_cases htakes : t.rest.length < p.rest.length
      · exact ih hpt htakes
      · obtain rfl := hpt.leads.eq_of_length_le (by omega)
        exact ihrounds hlt

/-- A match that takes a character ends with one of the last sets. -/
theorem Matches.exists_last {r : Regex} {p q : Place} (h : Matches r p q)
    (hlt : q.rest.length < p.rest.length) :
    ∃ s ∈ lasts r, ∃ c, q.before = some c ∧ s.has c = true := by
  induction r generalizing p q with
  | empty =>
    obtain rfl : q = p := h
    exact absurd hlt (Nat.lt_irrefl _)
  | leaf s =>
    obtain ⟨c, rest, -, hc, rfl⟩ := h
    exact ⟨s, List.mem_singleton_self s, c, rfl, hc⟩
  | look l =>
    obtain ⟨rfl, -⟩ := h
    exact absurd hlt (Nat.lt_irrefl _)
  | seq r s ihr ihs =>
    obtain ⟨t, hr, hs⟩ := h
    rw [lasts]
    -- if the second part takes nothing, the match ends with the first part
    by_cases htq : q.rest.length < t.rest.length
    · obtain ⟨a, ha, hlast⟩ := ihs hs htq
      exact ⟨a, by split_ifs <;> simp [ha], hlast⟩
    · obtain rfl := hs.leads.eq_of_length_le (by omega)
      obtain ⟨a, ha, hlast⟩ := ihr hr hlt
      refine ⟨a, ?_, hlast⟩
      rw [if_pos (hs.nullable_of_length_le le_rfl)]
      exact List.mem_union_iff.mpr (.inl ha)
  | alt r s ihr ihs =>
    rcases h with h | h
    · obtain ⟨a, ha, hlast⟩ := ihr h hlt
      exact ⟨a, List.mem_union_iff.mpr (.inl ha), hlast⟩
    · obtain ⟨a, ha, hlast⟩ := ihs h hlt
      exact ⟨a, List.mem_union_iff.mpr (.inr ha), hlast⟩
  | plus greedy r ih =>
    change Relation.TransGen (Matches r) p q at h
    -- the last round that takes a character ends the match
    induction h with
    | single h => exact ih h hlt
    | @tail t q hrounds h ihrounds =>
      by_cases htakes : q.rest.length < t.rest.length
      · exact ih h htakes
      · obtain rfl := h.leads.eq_of_length_le (by omega)
        exact ihrounds hlt

/-! ## 3. What a search finds -/

/-- What a search finds is the text between two places that the expression matches. -/
theorem exists_of_find_eq_some {r : Regex} {text found : List Char} (h : r.find text = some found) :
    ∃ before p q, text = before ++ found ++ q.rest ∧ p.rest = found ++ q.rest ∧
      (Place.start text).Leads p ∧ Matches r p q := by
  obtain ⟨⟨i, n⟩, hsearch, rfl⟩ := Option.map_eq_some_iff.mp h
  obtain ⟨p, hp, hi, hmatch, -⟩ := search_eq_some_iff.mp hsearch
  obtain ⟨q, hq, hn⟩ := matches_of_matchAt hmatch
  -- both places are told by how much of the text they leave over
  have hprest : p.rest = text.drop i := by
    rw [List.suffix_iff_eq_drop.mp hp.suffix]
    exact congrArg text.drop (by simp only [Place.start]; omega)
  have hqrest : q.rest = (text.drop i).drop n := by
    rw [List.suffix_iff_eq_drop.mp hq.leads.suffix, ← hprest]
    exact congrArg p.rest.drop (by omega)
  have hsplit : p.rest = (text.drop i).take n ++ q.rest := by
    rw [hqrest, List.take_append_drop, hprest]
  refine ⟨text.take i, p, q, ?_, hsplit, hp, hq⟩
  show text = text.take i ++ _ ++ q.rest
  rw [List.append_assoc, ← hsplit, hprest, List.take_append_drop]

/-- A match lies inside the text. -/
theorem length_of_search {r : Regex} {text : List Char} {i n : Nat} (h : search r text = some (i, n)) :
    ((text.drop i).take n).length = n := by
  obtain ⟨p, -, hi, hmatch, -⟩ := search_eq_some_iff.mp h
  obtain ⟨q, -, hn⟩ := matches_of_matchAt hmatch
  rw [List.length_take, List.length_drop]
  omega

theorem minLength_le_of_find {r : Regex} {text found : List Char} (h : r.find text = some found) :
    minLength r ≤ found.length := by
  obtain ⟨-, p, q, -, hp, -, hmatch⟩ := exists_of_find_eq_some h
  have := hmatch.minLength_le
  rw [hp, List.length_append] at this
  omega

/-- Whether no match is seen to begin or end with one of some code points. -/
def endsAvoid (points : List Nat) (r : Regex) : Bool :=
  (firsts r ∪ lasts r).all fun s => points.all fun c => !s.mem c

theorem notMem_of_endsAvoid {points : List Nat} {r : Regex} (h : endsAvoid points r = true)
    {s : CharSet} (hs : s ∈ firsts r ∨ s ∈ lasts r) {c : Char} (hc : s.has c = true) :
    c.toNat ∉ points := by
  intro hmem
  have hnot := List.all_eq_true.mp (List.all_eq_true.mp h s (List.mem_union_iff.mpr hs)) _ hmem
  rw [CharSet.has] at hc
  rw [hc] at hnot
  cases hnot

theorem ends_of_find {points : List Nat} {r : Regex} (hr : endsAvoid points r = true)
    {text found : List Char} (h : r.find text = some found) (hne : found ≠ []) :
    (∃ c, found.head? = some c ∧ c.toNat ∉ points) ∧
      ∃ c, found.getLast? = some c ∧ c.toNat ∉ points := by
  obtain ⟨-, p, q, -, hp, -, hmatch⟩ := exists_of_find_eq_some h
  -- a match that is not empty has a first and a last character
  have hlt : q.rest.length < p.rest.length := by
    rw [hp, List.length_append]
    have := List.length_pos_iff.mpr hne
    omega
  constructor
  · obtain ⟨s, hs, c, rest, hrest, hc⟩ := hmatch.exists_first hlt
    refine ⟨c, ?_, notMem_of_endsAvoid hr (.inl hs) hc⟩
    rw [← List.head?_append_of_ne_nil found hne, ← hp, hrest]
    rfl
  · obtain ⟨s, hs, c, hbefore, hc⟩ := hmatch.exists_last hlt
    obtain ⟨front, d, hfront, hd⟩ := hmatch.leads.exists_last hlt
    -- the character before the place where the match ends is the last one that was taken
    obtain rfl : c = d := Option.some.inj (hbefore.symm.trans hd)
    have hfound : found ++ q.rest = (front ++ [c]) ++ q.rest := by
      rw [← hp, hfront, List.append_assoc]
      rfl
    refine ⟨c, ?_, notMem_of_endsAvoid hr (.inr hs) hc⟩
    rw [List.append_cancel_right hfound, List.getLast?_concat]

end Regex

end SecretScan
