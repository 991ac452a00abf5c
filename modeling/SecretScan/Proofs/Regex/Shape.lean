import SecretScan.Proofs.Regex.Containment
import SecretScan.Proofs.Text.CaseFold

/-!
# Shapes of texts that an expression finds

A shape describes a text from its start to its end by the sets that its characters are from.
`Regex.leftovers` follows an expression along a shape.  If that leads anywhere, every text of the
shape is found, whatever stands around it (`Regex.matchesIn_of_leadsAlong`).
-/

namespace SecretScan

/-! ## 1. Sets of characters -/

namespace CharSet

theorem mem_range_self {code c : Nat} : (range code code).mem c = true ↔ c = code := by
  simp only [mem, Bool.and_eq_true, decide_eq_true_eq]
  omega

/-- The set of some code points. -/
def ofCodes (codes : List Nat) : CharSet := unions (codes.map fun code => range code code)

theorem mem_ofCodes {codes : List Nat} {c : Nat} : (ofCodes codes).mem c = true ↔ c ∈ codes := by
  induction codes with
  | nil => exact iff_of_false Bool.false_ne_true List.not_mem_nil
  | cons code codes ih =>
    cases codes with
    | nil => exact mem_range_self.trans List.mem_singleton.symm
    | cons code' codes =>
      show (mem (range code code) c || mem (ofCodes (code' :: codes)) c) = true ↔ _
      rw [Bool.or_eq_true]
      exact (or_congr mem_range_self ih).trans List.mem_cons.symm

/-- The characters that differ from a character in case only, and the character. -/
def letters (c : Char) : CharSet := ofCodes (CaseFold.variants c.toNat)

/-- If case does not matter for the members of a set, it does not matter for the set. -/
theorem mem_of_mem_folded {s : CharSet} (h : ∀ d, s.mem d = true → CaseFold.isCaseless d = true)
    {c : Nat} (hc : (folded s).mem c = true) : s.mem c = true := by
  obtain ⟨d, hd, hmem⟩ := List.any_eq_true.mp hc
  rwa [CaseFold.eq_of_mem_variants (h d hmem) hd] at hmem

end CharSet

/-! ## 2. Shapes -/

/-- A part of a shape. -/
inductive Slot where
  /-- One character of a set. -/
  | one (s : CharSet)
  /-- Any number of characters of a set. -/
  | any (s : CharSet)

/-- The parts that a text consists of. -/
abbrev Shape := List Slot

namespace Shape

/-- The text has the shape. -/
def Spells : Shape → List Char → Prop
  | [], text => text = []
  | .one s :: shape, text => ∃ c rest, text = c :: rest ∧ s.has c = true ∧ Spells shape rest
  | .any s :: shape, text =>
    ∃ run rest, text = run ++ rest ∧ (∀ c ∈ run, s.has c = true) ∧ Spells shape rest

theorem Spells.append {shape shape' : Shape} {text text' : List Char} (h : Spells shape text)
    (h' : Spells shape' text') : Spells (shape ++ shape') (text ++ text') := by
  induction shape generalizing text with
  | nil =>
    obtain rfl : text = [] := h
    exact h'
  | cons slot shape ih =>
    cases slot with
    | one s =>
      obtain ⟨c, rest, rfl, hc, hrest⟩ := h
      exact ⟨c, rest ++ text', rfl, hc, ih hrest⟩
    | any s =>
      obtain ⟨run, rest, rfl, hrun, hrest⟩ := h
      exact ⟨run, rest ++ text', List.append_assoc run rest text', hrun, ih hrest⟩

/-- Texts one after the other have their shapes one after the other. -/
theorem spells_flatten {shapes : List Shape} {texts : List (List Char)}
    (h : List.Forall₂ Spells shapes texts) : Spells shapes.flatten texts.flatten := by
  induction h with
  | nil => rfl
  | cons hspells _ ih => exact hspells.append ih

theorem spells_one {s : CharSet} {c : Char} (h : s.has c = true) : Spells [.one s] [c] :=
  ⟨c, [], rfl, h, rfl⟩

theorem spells_any {s : CharSet} {run : List Char} (h : ∀ c ∈ run, s.has c = true) :
    Spells [.any s] run :=
  ⟨run, [], (List.append_nil run).symm, h, rfl⟩

/-- The shape of a text in any letter case. -/
def word (text : List Char) : Shape := text.map fun c => .one (.letters c)

theorem spells_word {text text' : List Char} (h : CaseFold.Alike text text') :
    Spells (word text) text' := by
  induction h with
  | nil => rfl
  | cons hc _ ih => exact ⟨_, _, rfl, CharSet.mem_ofCodes.mpr hc, ih⟩

/-- The shape of a text. -/
def exactly (text : List Char) : Shape := text.map fun c => .one (.single c)

theorem spells_exactly (text : List Char) : Spells (exactly text) text := by
  induction text with
  | nil => rfl
  | cons c text ih => exact ⟨c, text, rfl, CharSet.mem_range_self.mpr rfl, ih⟩

/-- At least `n` characters of a set. -/
def atLeast (s : CharSet) : Nat → Shape
  | 0 => [.any s]
  | n + 1 => .one s :: atLeast s n

theorem spells_atLeast {s : CharSet} {n : Nat} {text : List Char} (hlength : n ≤ text.length)
    (h : ∀ c ∈ text, s.has c = true) : Spells (atLeast s n) text := by
  induction n generalizing text with
  | zero => exact spells_any h
  | succ n ih =>
    cases text with
    | nil => cases hlength
    | cons c text =>
      obtain ⟨hc, htext⟩ := List.forall_mem_cons.mp h
      exact ⟨c, text, rfl, hc, ih (Nat.le_of_succ_le_succ hlength) htext⟩

end Shape

namespace Regex

/-! ## 3. Texts that an expression takes -/

/-- The expression matches the text wherever it stands. -/
def Takes (r : Regex) (text : List Char) : Prop :=
  ∀ before after, ∃ last, Matches r ⟨before, text ++ after⟩ ⟨last, after⟩

theorem takes_leaf {s : CharSet} {c : Char} (h : s.has c = true) : Takes (.leaf s) [c] :=
  fun _ after => ⟨some c, c, after, rfl, h, rfl⟩

theorem Takes.seq {r s : Regex} {text text' : List Char} (hr : Takes r text)
    (hs : Takes s text') : Takes (.seq r s) (text ++ text') := by
  intro before after
  obtain ⟨between, hfirst⟩ := hr before (text' ++ after)
  obtain ⟨last, hsecond⟩ := hs between after
  rw [List.append_assoc]
  exact ⟨last, _, hfirst, hsecond⟩

/-- Rounds of an expression that take nothing more than a run of characters. -/
theorem reflTransGen_run {s : CharSet} {run : List Char} (h : ∀ c ∈ run, s.has c = true)
    (before : Option Char) (after : List Char) : ∃ last,
      Relation.ReflTransGen (Matches (.leaf s)) ⟨before, run ++ after⟩ ⟨last, after⟩ := by
  induction run generalizing before with
  | nil => exact ⟨before, .refl⟩
  | cons c run ih =>
    obtain ⟨hc, hrun⟩ := List.forall_mem_cons.mp h
    obtain ⟨last, hrounds⟩ := ih hrun (some c)
    exact ⟨last, .head ⟨c, run ++ after, rfl, hc, rfl⟩ hrounds⟩

theorem takes_plus {greedy : Bool} {r : Regex} {text : List Char} (h : Takes r text) :
    Takes (.plus greedy r) text := by
  intro before after
  obtain ⟨last, hround⟩ := h before after
  exact ⟨last, .single hround⟩

theorem Takes.plus_run {greedy : Bool} {s : CharSet} {text run : List Char}
    (h : Takes (.leaf s) text) (hrun : ∀ c ∈ run, s.has c = true) :
    Takes (.plus greedy (.leaf s)) (text ++ run) := by
  intro before after
  obtain ⟨between, hround⟩ := h before (run ++ after)
  obtain ⟨last, hrounds⟩ := reflTransGen_run hrun between after
  rw [List.append_assoc]
  exact ⟨last, .head' hround hrounds⟩

theorem takes_empty : Takes .empty [] := fun before _ => ⟨before, rfl⟩

theorem Takes.alt_left {r : Regex} {text : List Char} (h : Takes r text) (s : Regex) :
    Takes (.alt r s) text := fun before after => (h before after).imp fun _ => .inl

theorem Takes.alt_right {s : Regex} {text : List Char} (h : Takes s text) (r : Regex) :
    Takes (.alt r s) text := fun before after => (h before after).imp fun _ => .inr

/-- Rounds that may be left out take any run. -/
theorem takes_of_run {greedy : Bool} {r : Regex} {s : CharSet} {run : List Char}
    (hnone : Takes r []) (hrounds : ∀ text, Takes (.plus greedy (.leaf s)) text → Takes r text)
    (hrun : ∀ c ∈ run, s.has c = true) : Takes r run := by
  cases run with
  | nil => exact hnone
  | cons c run =>
    obtain ⟨hc, hrun⟩ := List.forall_mem_cons.mp hrun
    exact hrounds _ ((takes_leaf hc).plus_run hrun)

/-! ## 4. Following an expression along a shape -/

/-- What is left of a shape after the run that it begins with, if rounds of the expression take that
run. -/
def afterRun : Regex → Shape → List Shape
  | .leaf s, .any t :: rest => if t.isWithin s then [rest] else []
  | _, _ => []

/-- The same for two alternatives, one of which takes nothing. -/
def afterOptionalRun : Regex → Regex → Shape → List Shape
  | .plus _ r, .empty, shape => afterRun r shape
  | .empty, .plus _ r, shape => afterRun r shape
  | _, _, _ => []

/-- What is left of a shape after what the expression is seen to take from the start of it, for each
way to match. -/
def leftovers : Regex → Shape → List Shape
  | .empty, shape => [shape]
  | .leaf s, .one t :: rest => if t.isWithin s then [rest] else []
  | .seq r s, shape => (leftovers r shape).flatMap (leftovers s)
  | .alt r s, shape => leftovers r shape ++ leftovers s shape ++ afterOptionalRun r s shape
  | .plus _ r, shape => leftovers r shape ++ (leftovers r shape).flatMap (afterRun r)
  | _, _ => []

/-- A text of a shape begins with what the expression takes, and what comes after it is left. -/
def TakesFrom (r : Regex) (rest : Shape) (text : List Char) : Prop :=
  ∃ taken left, text = taken ++ left ∧ Takes r taken ∧ rest.Spells left

theorem exists_run_of_mem_afterRun {r : Regex} {shape rest : Shape} (h : rest ∈ afterRun r shape)
    {text : List Char} (htext : shape.Spells text) : ∃ s run left, r = .leaf s ∧
      text = run ++ left ∧ (∀ c ∈ run, s.has c = true) ∧ rest.Spells left := by
  unfold afterRun at h
  split at h
  next s t rest' =>
    split_ifs at h with hwithin
    · obtain rfl := List.mem_singleton.mp h
      obtain ⟨run, left, rfl, hrun, hleft⟩ := htext
      exact ⟨s, run, left, rfl, rfl, fun c hc => CharSet.has_of_isWithin hwithin (hrun c hc), hleft⟩
    · cases h
  next => cases h

/-- One side is a repetition of a set, and the other one takes nothing. -/
theorem takesFrom_of_mem_afterOptionalRun {r s : Regex} {shape rest : Shape}
    (h : rest ∈ afterOptionalRun r s shape) {text : List Char} (htext : shape.Spells text) :
    TakesFrom (.alt r s) rest text := by
  unfold afterOptionalRun at h
  split at h
  next =>
    obtain ⟨_, run, left, rfl, rfl, hrun, hrest⟩ := exists_run_of_mem_afterRun h htext
    exact ⟨run, left, rfl, takes_of_run (takes_empty.alt_right _) (fun _ h => h.alt_left _) hrun,
      hrest⟩
  next =>
    obtain ⟨_, run, left, rfl, rfl, hrun, hrest⟩ := exists_run_of_mem_afterRun h htext
    exact ⟨run, left, rfl, takes_of_run (takes_empty.alt_left _) (fun _ h => h.alt_right _) hrun,
      hrest⟩
  next => cases h

theorem takesFrom_of_mem_leftovers {r : Regex} {shape rest : Shape} (h : rest ∈ leftovers r shape)
    {text : List Char} (htext : shape.Spells text) : TakesFrom r rest text := by
  -- each part goes on along what the part before it has left of the shape
  induction r generalizing shape rest text with
  | empty =>
    obtain rfl := List.mem_singleton.mp h
    exact ⟨[], text, rfl, takes_empty, htext⟩
  | leaf s =>
    cases shape with
    | nil => cases h
    | cons slot shape =>
      cases slot with
      | any t => cases h
      | one t =>
        rw [leftovers] at h
        split_ifs at h with hwithin
        · obtain rfl := List.mem_singleton.mp h
          obtain ⟨c, left, rfl, hc, hleft⟩ := htext
          exact ⟨[c], left, rfl, takes_leaf (CharSet.has_of_isWithin hwithin hc), hleft⟩
        · cases h
  | look l => cases h
  | seq r s ihr ihs =>
    obtain ⟨between, hbetween, hrest⟩ := List.mem_flatMap.mp h
    obtain ⟨taken, _, rfl, htaken, hleft⟩ := ihr hbetween htext
    obtain ⟨taken', left, rfl, htaken', hrest⟩ := ihs hrest hleft
    exact ⟨taken ++ taken', left, (List.append_assoc _ _ _).symm, htaken.seq htaken', hrest⟩
  | alt r s ihr ihs =>
    rw [leftovers, List.mem_append, List.mem_append, or_assoc] at h
    rcases h with h | h | h
    · obtain ⟨taken, left, rfl, htaken, hrest⟩ := ihr h htext
      exact ⟨taken, left, rfl, htaken.alt_left s, hrest⟩
    · obtain ⟨taken, left, rfl, htaken, hrest⟩ := ihs h htext
      exact ⟨taken, left, rfl, htaken.alt_right r, hrest⟩
    · exact takesFrom_of_mem_afterOptionalRun h htext
  | plus greedy r ih =>
    rw [leftovers, List.mem_append] at h
    rcases h with h | h
    · obtain ⟨taken, left, rfl, htaken, hrest⟩ := ih h htext
      exact ⟨taken, left, rfl, takes_plus htaken, hrest⟩
    · -- the rounds after the first one take a run of a single set
      obtain ⟨between, hbetween, hafter⟩ := List.mem_flatMap.mp h
      obtain ⟨taken, _, rfl, htaken, hbetween⟩ := ih hbetween htext
      obtain ⟨s, run, left, rfl, rfl, hrun, hrest⟩ := exists_run_of_mem_afterRun hafter hbetween
      exact ⟨taken ++ run, left, (List.append_assoc _ _ _).symm, htaken.plus_run hrun, hrest⟩

/-! ## 5. Searches -/

theorem leads_append (before : Option Char) (passed rest : List Char) :
    ∃ last, Place.Leads ⟨before, passed ++ rest⟩ ⟨last, rest⟩ := by
  induction passed generalizing before with
  | nil => exact ⟨before, .refl _⟩
  | cons c passed ih =>
    obtain ⟨last, hlead⟩ := ih (some c)
    exact ⟨last, .pass hlead⟩

/-- Whether the expression leads anywhere along a shape. -/
def leadsAlong (r : Regex) (shape : Shape) : Bool := !(leftovers r shape).isEmpty

/-- A text of a shape along which an expression leads is found in every text around it. -/
theorem matchesIn_of_leadsAlong {r : Regex} {shape : Shape} (h : leadsAlong r shape = true)
    {text : List Char} (htext : shape.Spells text) (before after : List Char) :
    matchesIn r (before ++ text ++ after) = true := by
  have hne : leftovers r shape ≠ [] := by simpa [leadsAlong] using h
  obtain ⟨rest, hrest⟩ := List.exists_mem_of_ne_nil _ hne
  obtain ⟨taken, left, rfl, htaken, -⟩ := takesFrom_of_mem_leftovers hrest htext
  obtain ⟨last, hlead⟩ := leads_append none before (taken ++ (left ++ after))
  obtain ⟨stop, hmatch⟩ := htaken last (left ++ after)
  have htexts : before ++ (taken ++ left) ++ after = before ++ (taken ++ (left ++ after)) := by
    simp only [List.append_assoc]
  rw [htexts, matchesIn_iff]
  exact ⟨_, _, hlead, hmatch⟩

end Regex

end SecretScan
