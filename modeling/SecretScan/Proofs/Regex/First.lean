import Mathlib
import SecretScan.Regex.Meaning

/-!
# Trying the ways to match

`Regex.first` asks what comes after the expression at the places that a match leads to, and at no
others.  This file proves that dependence, and that `first` has an answer exactly if some match leads
to a place where what comes after has one.  `Regex.Matches` is the relation behind it, which forgets
the order in which the ways are tried.
-/

namespace SecretScan

/-! ## 1. Places further on in a text -/

/-- The second place is the first or comes after it in the same text. -/
inductive Place.Leads : Place → Place → Prop
  | refl (p : Place) : Leads p p
  | pass {before : Option Char} {c : Char} {rest : List Char} {q : Place} :
      Leads ⟨some c, rest⟩ q → Leads ⟨before, c :: rest⟩ q

namespace Place

theorem Leads.trans {p q t : Place} (hpq : p.Leads q) (hqt : q.Leads t) : p.Leads t := by
  induction hpq with
  | refl => exact hqt
  | pass _ ih => exact .pass (ih hqt)

theorem Leads.step (before : Option Char) (c : Char) (rest : List Char) :
    Leads ⟨before, c :: rest⟩ ⟨some c, rest⟩ :=
  .pass (.refl _)

theorem Leads.suffix {p q : Place} (h : p.Leads q) : q.rest <:+ p.rest := by
  induction h with
  | refl => exact List.suffix_refl _
  | pass _ ih => exact ih.trans (List.suffix_cons _ _)

theorem Leads.length_le {p q : Place} (h : p.Leads q) : q.rest.length ≤ p.rest.length :=
  h.suffix.length_le

/-- The number of characters left tells the places of one text apart. -/
theorem Leads.eq_of_length_le {p q : Place} (h : p.Leads q)
    (hle : p.rest.length ≤ q.rest.length) : q = p := by
  cases h with
  | refl => rfl
  | @pass before c rest q h =>
    have hlen : q.rest.length ≤ rest.length := h.length_le
    rw [List.length_cons] at hle
    omega

theorem Leads.length_lt {p q : Place} (h : p.Leads q) (hne : q ≠ p) :
    q.rest.length < p.rest.length := by
  have := h.length_le
  by_contra hlt
  exact hne (h.eq_of_length_le (by omega))

/-- At the end of a text there is nowhere to go. -/
theorem Leads.eq_of_rest_nil {p q : Place} (h : p.Leads q) (hp : p.rest = []) : q = p :=
  h.eq_of_length_le (by rw [hp]; exact Nat.zero_le _)

/-- Of two places of one text, one leads to the other. -/
theorem Leads.total {t p q : Place} (hp : t.Leads p) (hq : t.Leads q) : p.Leads q ∨ q.Leads p := by
  induction hp with
  | refl => exact .inl hq
  | @pass before c rest p hp ih =>
    cases hq with
    | refl => exact .inr (.pass hp)
    | pass hq => exact ih hq

end Place

namespace Regex

variable {β γ : Type}

/-! ## 2. What the answer depends on -/

/-- What a trial asks only at the places ahead of its start. -/
def AsksAhead (body : (Place → Option β) → Place → Option β) : Prop :=
  ∀ (k k' : Place → Option β) (p : Place), (∀ q, p.Leads q → k q = k' q) → body k p = body k' p

theorem moreRounds_congr (greedy : Bool) {body : (Place → Option β) → Place → Option β}
    (hbody : AsksAhead body) (k k' : Place → Option β) (p : Place)
    (h : ∀ q, p.Leads q → k q = k' q) :
    moreRounds greedy body k p = moreRounds greedy body k' p := by
  -- on the characters left: another round is asked for only where fewer are left
  induction hn : p.rest.length using Nat.strong_induction_on generalizing p with
  | h n ih =>
    have hagain : body (fun q => if q.rest.length < p.rest.length
          then moreRounds greedy body k q else none) p =
        body (fun q => if q.rest.length < p.rest.length
          then moreRounds greedy body k' q else none) p := by
      apply hbody
      intro q hq
      by_cases hlt : q.rest.length < p.rest.length
      · rw [if_pos hlt, if_pos hlt]
        exact ih _ (hn ▸ hlt) q (fun t ht => h t (hq.trans ht)) rfl
      · rw [if_neg hlt, if_neg hlt]
    rw [moreRounds, moreRounds, hagain, h p (.refl p)]

theorem first_asksAhead (r : Regex) : AsksAhead (β := β) (first r) := by
  induction r with
  | empty => exact fun k k' p h => h p (.refl p)
  | leaf s =>
    intro k k' p h
    obtain ⟨before, rest⟩ := p
    cases rest with
    | nil => rfl
    | cons c rest => simp only [first, h _ (.step before c rest)]
  | look l =>
    intro k k' p h
    simp only [first, h p (.refl p)]
  | seq r s ihr ihs =>
    intro k k' p h
    apply ihr
    exact fun q hq => ihs k k' q fun t ht => h t (hq.trans ht)
  | alt r s ihr ihs =>
    intro k k' p h
    simp only [first, ihr k k' p h, ihs k k' p h]
  | plus greedy r ih =>
    intro k k' p h
    apply ih
    intro q hq
    -- a first round that takes nothing is followed by what comes after, not by further rounds
    by_cases hlt : q.rest.length < p.rest.length
    · rw [if_pos hlt, if_pos hlt]
      exact moreRounds_congr greedy ih k k' q fun t ht => h t (hq.trans ht)
    · rw [if_neg hlt, if_neg hlt]
      exact h q hq

theorem first_congr (r : Regex) {k k' : Place → Option β} {p : Place}
    (h : ∀ q, p.Leads q → k q = k' q) : first r k p = first r k' p :=
  first_asksAhead r k k' p h

/-! ## 3. Changing the answers -/

theorem orElse_map (f : β → γ) (x y : Option β) : (x <|> y).map f = (x.map f <|> y.map f) := by
  cases x <;> rfl

theorem moreRounds_map (f : β → γ) (greedy : Bool)
    {body : (Place → Option β) → Place → Option β} {body' : (Place → Option γ) → Place → Option γ}
    (hbody : ∀ k p, body' (fun q => (k q).map f) p = (body k p).map f)
    (k : Place → Option β) (p : Place) :
    moreRounds greedy body' (fun q => (k q).map f) p = (moreRounds greedy body k p).map f := by
  -- further rounds start where fewer characters are left
  induction hn : p.rest.length using Nat.strong_induction_on generalizing p with
  | h n ih =>
    have hagain : (fun q : Place => if q.rest.length < p.rest.length
          then moreRounds greedy body' (fun q => (k q).map f) q else none) =
        fun q => (if q.rest.length < p.rest.length
          then moreRounds greedy body k q else none).map f := by
      funext q
      by_cases hlt : q.rest.length < p.rest.length
      · rw [if_pos hlt, if_pos hlt]
        exact ih _ (hn ▸ hlt) q rfl
      · rw [if_neg hlt, if_neg hlt]
        rfl
    rw [moreRounds, moreRounds, hagain, hbody]
    cases greedy <;> simp only [Bool.false_eq_true, ↓reduceIte, orElse_map]

/-- A change of the answers of what comes after is a change of the answer. -/
theorem first_map (f : β → γ) (r : Regex) (k : Place → Option β) (p : Place) :
    first r (fun q => (k q).map f) p = (first r k p).map f := by
  induction r generalizing k p with
  | empty => rfl
  | leaf s =>
    obtain ⟨before, rest⟩ := p
    cases rest with
    | nil => rfl
    | cons c rest =>
      simp only [first]
      split <;> rfl
  | look l =>
    simp only [first]
    split <;> rfl
  | seq r s ihr ihs =>
    -- the answers of the second part are those that the first part asks for
    have hs : first s (fun q => (k q).map f) = fun q => (first s k q).map f :=
      funext fun q => ihs k q
    rw [first, hs, ihr]
    rfl
  | alt r s ihr ihs =>
    rw [first, first, ihr, ihs, orElse_map]
  | plus greedy r ih =>
    rw [first, first, ← ih]
    congr 1
    funext q
    split
    · exact moreRounds_map f greedy ih k q
    · rfl

/-- Where nothing has an answer, there is none: an answer is always one of what comes after. -/
theorem first_none (r : Regex) (p : Place) : first r (fun _ => (none : Option β)) p = none := by
  -- in the empty type there is no answer to be had
  have h := first_map (Empty.elim : Empty → β) r (fun _ => none) p
  cases hfirst : first r (fun _ => (none : Option Empty)) p with
  | none =>
    rw [hfirst] at h
    exact h
  | some e => exact e.elim

theorem moreRounds_none (greedy : Bool) (r : Regex) (p : Place) :
    moreRounds greedy (first r) (fun _ => (none : Option β)) p = none := by
  have h := moreRounds_map (Empty.elim : Empty → β) greedy (first_map Empty.elim r)
    (fun _ => none) p
  cases hrounds : moreRounds greedy (first r) (fun _ => (none : Option Empty)) p with
  | none =>
    rw [hrounds] at h
    exact h
  | some e => exact e.elim

end Regex

end SecretScan
