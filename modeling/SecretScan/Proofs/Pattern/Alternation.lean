import SecretScan.Pattern.Matcher
import SecretScan.Proofs.Regex.Reader.Reads

/-!
# Reading an alternation of lines

The lines of a stage are written between parentheses with a bar between them, and the whole is read
at once.  If the reader comes to the parenthesis after each line with no group open, then what it
has read is the choice of what the lines stand for on their own.
-/

namespace SecretScan

open Regex Regex.Reader

/-! ## 1. A group around a line -/

/-- The line, with a closing parenthesis and `tail` after it, is read up to this parenthesis, and no
group is open there. -/
def Pattern.FitsAs (line tail : List Char) (u : State) : Prop :=
  u.outer = [] ∧ ∃ es, Reads {} (line ++ ')' :: tail) u es ∧ skip u.flags.verbose es = ')' :: tail

namespace Regex.Reader

/-- The state after a group in which the reader got to `u`. -/
def State.afterGroup (s u : State) : State :=
  { s with group := s.group.push u.group.close.group, names := u.names ++ s.names }

variable {s u v : State} {line tail : List Char}

/-- Nothing is repeated at the start of a text. -/
theorem Reads.head_ne {cs ds : List Char} (h : Reads {} ('?' :: cs) u ds) :
    u = {} ∧ ds = '?' :: cs := by
  cases h with
  | refl => exact ⟨rfl, rfl⟩
  | part hskip hpart _ =>
    rw [skip_false] at hskip
    cases hskip
    cases hpart

theorem fitsAs_head (h : Pattern.FitsAs line tail u) : line.head? ≠ some '?' := by
  intro hhead
  obtain ⟨rest, rfl⟩ := List.head?_eq_some_iff.mp hhead
  obtain ⟨-, es, hreads, hparen⟩ := h
  rw [List.cons_append] at hreads
  obtain ⟨rfl, rfl⟩ := hreads.head_ne
  rw [skip_false] at hparen
  cases hparen

theorem accepts_head (h : Accepts {} line u) : line.head? ≠ some '?' := by
  intro hhead
  obtain ⟨rest, rfl⟩ := List.head?_eq_some_iff.mp hhead
  obtain ⟨ds, hreads, hnil⟩ := h
  obtain ⟨rfl, rfl⟩ := hreads.head_ne
  rw [skip_false] at hnil
  cases hnil

/-- An opening parenthesis before a line opens a group that is only numbered. -/
theorem readPart_open (hs : s.flags = {}) (houter : s.outer = []) (hline : line.head? ≠ some '?') :
    readPart s '(' (line ++ ')' :: tail) =
      .ok (State.under {} [(s.group, {})] s.names, line ++ ')' :: tail) := by
  have hhead : (skip s.flags.verbose (line ++ ')' :: tail)).head? ≠ some '?' := by
    rw [hs, skip_false]
    cases line with
    | nil => simp
    | cons c line => simpa using hline
  have hopening := readOpening_numbered hhead
  rw [hs, skip_false] at hopening
  refine readPart_eq_ok.mpr ⟨.opening .numbered, ?_, ?_⟩
  · simp only [hs, readToken, hopening]
    rfl
  · simp [State.take, State.start, State.openGroup, State.under, hs, houter]

/-- The closing parenthesis after a line closes the group around it. -/
theorem readPart_close (hs : s.flags = {}) (houter : s.outer = []) (hu : u.outer = []) :
    readPart (u.under [(s.group, {})] s.names) ')' tail = .ok (s.afterGroup u, tail) := by
  refine readPart_eq_ok.mpr ⟨.close, rfl, ?_⟩
  simp [State.take, State.finish, State.under, State.afterGroup, hu, hs, houter]

theorem skip_open (hs : s.flags = {}) :
    skip s.flags.verbose ('(' :: (line ++ ')' :: tail)) = '(' :: (line ++ ')' :: tail) := by
  rw [hs, skip_false]

/-- What is read from a group on is read from the end of the group on, if the line fits. -/
theorem Accepts.group (hs : s.flags = {}) (houter : s.outer = []) (h : Pattern.FitsAs line tail u)
    (haccepts : Accepts s ('(' :: (line ++ ')' :: tail)) v) : Accepts (s.afterGroup u) tail v := by
  have hline := fitsAs_head h
  obtain ⟨hu, es, hreads, hparen⟩ := h
  have hinside := haccepts.of_reads
    (.part (skip_open hs) (readPart_open hs houter hline) (.refl _ _))
  have hend := Accepts.under hreads hinside
  exact hend.of_reads (.part hparen (readPart_close hs houter hu) (.refl _ _))

/-- The state after a bar. -/
def State.afterBar (s : State) : State := { s with group := s.group.nextBranch }

theorem Reads.bar (hs : s.flags = {}) (cs : List Char) : Reads s ('|' :: cs) s.afterBar cs := by
  have hskip : skip s.flags.verbose ('|' :: cs) = '|' :: cs := by rw [hs, skip_false]
  exact .part hskip rfl (.refl _ _)

/-- A line that can be read on its own fits, if no comment in it hides the parenthesis, and none does
if all groups are closed at the end. -/
theorem fitsAs_of_accepts (hs : s.flags = {}) (houter : s.outer = []) (hline : Accepts {} line u)
    (hu : u.outer = []) (htail : '\n' ∉ tail)
    (haccepts : Accepts s ('(' :: (line ++ ')' :: tail)) v) (hv : v.outer = []) :
    Pattern.FitsAs line tail u := by
  rcases hline.append (d := ')') (by decide) tail with hfits | ⟨-, hhidden⟩
  · exact ⟨hu, hfits⟩
  · exfalso
    obtain ⟨es, hreads, hhidden⟩ := hhidden htail
    have hinside := haccepts.of_reads
      (.part (skip_open hs) (readPart_open hs houter (accepts_head hline)) (.refl _ _))
    have hend := Accepts.under hreads hinside
    rw [hend.of_hidden hhidden] at hv
    simp [State.under] at hv

end Regex.Reader

/-! ## 2. The parts of an alternation -/

namespace Regex.Reader

/-- A group with parts to choose from, the first one first. -/
def OpenGroup.addBranches (g : OpenGroup) : List Part → OpenGroup
  | [] => g
  | [p] => g.push p
  | p :: q :: ps => (g.push p).nextBranch.addBranches (q :: ps)

/-- Parts to choose from as one part. -/
def Part.joined (ps : List Part) : Part := OpenGroup.close (OpenGroup.addBranches {} ps)

theorem addBranches_close {g : OpenGroup} (hg : g.parts = []) {ps : List Part} (hps : ps ≠ [])
    (hmany : g.branches ≠ [] ∨ 2 ≤ ps.length) :
    (g.addBranches ps).close =
      Part.choice ((ps.map fun p => Part.concat [p]).reverse ++ g.branches) := by
  induction ps generalizing g with
  | nil => exact absurd rfl hps
  | cons p ps ih =>
    cases ps with
    | nil =>
      -- the last branch is not alone, so the group is a choice
      have hbranches : g.branches ≠ [] := hmany.resolve_right (by simp)
      obtain ⟨b, branches, hb⟩ := List.exists_cons_of_ne_nil hbranches
      simp [OpenGroup.addBranches, OpenGroup.push, OpenGroup.close, hg, hb]
    | cons q ps =>
      rw [OpenGroup.addBranches, ih rfl (by simp) (.inl (by simp [OpenGroup.nextBranch]))]
      simp [OpenGroup.nextBranch, OpenGroup.push, hg]

theorem joined_of_two {ps : List Part} (h : 2 ≤ ps.length) :
    Part.joined ps = Part.choice (ps.map fun p => Part.concat [p]).reverse := by
  rw [Part.joined, addBranches_close rfl (by rintro rfl; simp at h) (.inr h)]
  simp

/-- The expression of parts to choose from is the choice of their expressions. -/
theorem joined_regex {ps : List Part} (hps : ps ≠ []) :
    (Part.joined ps).regex = Expr.choice (ps.map Part.regex) := by
  by_cases htwo : 2 ≤ ps.length
  · rw [joined_of_two htwo]
    simp only [Part.choice, List.reverse_reverse, List.map_map]
    rfl
  · obtain ⟨p, rfl⟩ : ∃ p, ps = [p] := by
      rw [← List.length_eq_one_iff]
      have := List.length_pos_of_ne_nil hps
      omega
    rfl

theorem le_nesting {d : Nat} {ds : List Nat} (h : d ∈ ds) : d ≤ nesting ds := by
  -- the greatest number so far is generalized, since it grows along the list
  have hfoldl : ∀ (ds : List Nat) (n : Nat), (n ≤ ds.foldl max n) ∧ ∀ d ∈ ds, d ≤ ds.foldl max n := by
    intro ds
    induction ds with
    | nil => simp
    | cons e ds ih =>
      intro n
      obtain ⟨hn, hds⟩ := ih (max n e)
      refine ⟨by simp only [List.foldl_cons]; omega, fun d hd => ?_⟩
      simp only [List.foldl_cons]
      rcases List.mem_cons.mp hd with rfl | hd
      · omega
      · exact hds d hd
  match ds, h with
  | [e], h => exact (List.mem_singleton.mp h).le
  | e :: e' :: ds, h =>
    have := (hfoldl (e :: e' :: ds) 0).2 d h
    simp only [nesting]
    omega

theorem le_foldr_add {n : Nat} {ns : List Nat} (h : n ∈ ns) : n ≤ ns.foldr (· + ·) 0 := by
  induction ns with
  | nil => cases h
  | cons m ns ih =>
    rw [List.foldr_cons]
    rcases List.mem_cons.mp h with rfl | h
    · omega
    · have := ih h
      omega

/-- No part nests deeper or takes more room than the parts to choose from together. -/
theorem le_joined {p : Part} {ps : List Part} (h : p ∈ ps) :
    p.depth ≤ (Part.joined ps).depth ∧ p.room ≤ (Part.joined ps).room := by
  by_cases htwo : 2 ≤ ps.length
  · -- two parts or more are put together as a choice of groups with one part each
    rw [joined_of_two htwo]
    have hdepth : p.depth ∈ (ps.map fun p => Part.concat [p]).reverse.map Part.depth := by
      simp only [List.mem_map, List.mem_reverse]
      exact ⟨Part.concat [p], ⟨p, h, rfl⟩, rfl⟩
    have hroom : p.room ∈ (ps.map fun p => Part.concat [p]).reverse.map Part.room := by
      simp only [List.mem_map, List.mem_reverse]
      exact ⟨Part.concat [p], ⟨p, h, rfl⟩, rfl⟩
    exact ⟨le_nesting hdepth, (le_foldr_add hroom).trans (Nat.le_add_right _ _)⟩
  · obtain ⟨q, rfl⟩ : ∃ q, ps = [q] := by
      rw [← List.length_eq_one_iff]
      have := List.length_pos_of_mem h
      omega
    obtain rfl := List.mem_singleton.mp h
    exact ⟨Nat.le_refl _, Nat.le_refl _⟩

end Regex.Reader

/-! ## 3. Lines that are read one by one -/

namespace Pattern

/-- What stands after the parenthesis that closes the group around a line. -/
def following : List (List Char) → List Char
  | [] => []
  | line :: lines => '|' :: alternation (line :: lines)

theorem alternation_cons (line : List Char) (lines : List (List Char)) :
    alternation (line :: lines) = '(' :: (line ++ ')' :: following lines) := by
  cases lines <;> simp [alternation, following]

/-- Each line, together with what follows it, is read up to the parenthesis after it, and no group
is open there. -/
def Separate : List (List Char) → Prop
  | [] => True
  | line :: lines => (∃ u, FitsAs line (following lines) u) ∧ Separate lines

/-- The states in which lines end. -/
inductive Ends : List (List Char) → List State → Prop
  | nil : Ends [] []
  | cons {line : List Char} {lines : List (List Char)} {u : State} {us : List State}
      (hline : FitsAs line (following lines) u) (hlines : Ends lines us) :
      Ends (line :: lines) (u :: us)

theorem Separate.ends {lines : List (List Char)} (h : Separate lines) : ∃ us, Ends lines us := by
  induction lines with
  | nil => exact ⟨[], .nil⟩
  | cons line lines ih =>
    obtain ⟨⟨u, hline⟩, hlines⟩ := h
    obtain ⟨us, hus⟩ := ih hlines
    exact ⟨u :: us, .cons hline hus⟩

/-- A line that fits can be read on its own, as far as its size allows. -/
theorem FitsAs.accepts {line tail : List Char} {u : State} (h : FitsAs line tail u) :
    Accepts {} line u := by
  obtain ⟨-, es, hreads, hparen⟩ := h
  exact hreads.accepts hparen

/-- What a line is as a part of an alternation. -/
def partOf (u : State) : Part := u.group.close.group

/-- Lines that fit become the branches of the open group. -/
theorem Ends.accepts {lines : List (List Char)} {us : List State} (h : Ends lines us)
    (hne : lines ≠ []) {s v : State} (hs : s.flags = {}) (houter : s.outer = [])
    (haccepts : Accepts s (alternation lines) v) :
    v.flags = {} ∧ v.outer = [] ∧ v.group = s.group.addBranches (us.map partOf) := by
  induction h generalizing s with
  | nil => exact absurd rfl hne
  | @cons line lines u us hline hlines ih =>
    rw [alternation_cons] at haccepts
    have hrest := haccepts.group hs houter hline
    -- after the last line nothing is left to read, and after another one comes a bar
    cases hlines with
    | nil =>
      rw [hrest.of_hidden (by simp [following, skip, spanVisible])]
      exact ⟨hs, houter, rfl⟩
    | cons hline' hlines' =>
      have hnext := hrest.of_reads (Reads.bar (s := s.afterGroup u) hs _)
      exact ih (List.cons_ne_nil _ _) (s := (s.afterGroup u).afterBar) hs houter hnext

theorem notMem_following {c : Char} (hc : c ≠ '(' ∧ c ≠ ')' ∧ c ≠ '|') {lines : List (List Char)}
    (h : ∀ line ∈ lines, c ∉ line) : c ∉ following lines := by
  induction lines with
  | nil => simp [following]
  | cons line lines ih =>
    have hline := h line List.mem_cons_self
    have hlines := ih fun line hmem => h line (List.mem_cons_of_mem _ hmem)
    rw [following, alternation_cons]
    simp [hc, hline, hlines]

/-- Lines that can be read on their own fit, if their alternation can be read. -/
theorem ends_of_accepts {lines : List (List Char)} {us : List State}
    (hlines : List.Forall₂ (fun line u => Accepts {} line u ∧ u.outer = []) lines us)
    (hnewline : ∀ line ∈ lines, '\n' ∉ line) {s v : State} (hs : s.flags = {})
    (houter : s.outer = []) (haccepts : Accepts s (alternation lines) v) (hv : v.outer = []) :
    Ends lines us := by
  induction hlines generalizing s with
  | nil => exact .nil
  | @cons line u lines us hline hlines ih =>
    have hnewline' : ∀ line ∈ lines, '\n' ∉ line :=
      fun line hmem => hnewline line (List.mem_cons_of_mem _ hmem)
    rw [alternation_cons] at haccepts
    -- the line is accepted on its own, and nothing hides the parenthesis after it
    have hfits := fitsAs_of_accepts hs houter hline.1 hline.2
      (notMem_following (by decide) hnewline') haccepts hv
    have hrest := haccepts.group hs houter hfits
    refine .cons hfits ?_
    cases hlines with
    | nil => exact .nil
    | cons hline' hlines' =>
      have hnext := hrest.of_reads (Reads.bar (s := s.afterGroup u) hs _)
      exact ih hnewline' (s := (s.afterGroup u).afterBar) hs houter hnext

end Pattern

/-! ## 4. The expression of an alternation -/

namespace Regex.Reader

theorem regex_eq_ok {u : State} {r : Regex} :
    u.regex = .ok r ↔ u.outer = [] ∧ u.group.close.depth ≤ maxDepth ∧
      u.group.close.room ≤ maxRoom ∧ u.group.close.regex = r := by
  unfold State.regex
  cases houter : u.outer with
  | cons g outer => simp
  | nil =>
    simp only [List.isEmpty_nil, Bool.not_true, Bool.false_eq_true, if_false, true_and]
    -- the nesting and then the room must not be too large
    split_ifs with hdepth hroom
    · simp only [false_iff]
      omega
    · simp only [false_iff]
      omega
    · simp only [Except.ok.injEq]
      constructor
      · intro h
        exact ⟨by omega, by omega, h⟩
      · exact fun h => h.2.2

end Regex.Reader

namespace Pattern

theorem partOf_regex (us : List State) :
    (us.map partOf).map Part.regex = us.map fun u => u.group.close.regex := by
  rw [List.map_map]
  rfl

/-- A line that fits stands for an expression, unless its size forbids it. -/
theorem Ends.read {lines : List (List Char)} {us : List State} (h : Ends lines us)
    (hsize : ∀ u ∈ us, u.group.close.depth ≤ maxDepth ∧ u.group.close.room ≤ maxRoom) :
    List.Forall₂ (fun line r => Regex.read line = .ok r) lines
      (us.map fun u => u.group.close.regex) := by
  induction h with
  | nil => exact .nil
  | @cons line lines u us hline hlines ih =>
    obtain ⟨hdepth, hroom⟩ := hsize u List.mem_cons_self
    have hregex := regex_eq_ok.mpr ⟨hline.1, hdepth, hroom, rfl⟩
    exact .cons (read_eq_ok.mpr ⟨u, hline.accepts, hregex⟩)
      (ih fun u hu => hsize u (List.mem_cons_of_mem _ hu))

theorem Ends.separate {lines : List (List Char)} {us : List State} (h : Ends lines us) :
    Separate lines := by
  induction h with
  | nil => trivial
  | cons hline _ ih => exact ⟨⟨_, hline⟩, ih⟩

/-- An alternation of lines that fit stands for the choice of what the lines stand for. -/
theorem read_alternation {lines : List (List Char)} (hne : lines ≠ []) (hlines : Separate lines)
    {r : Regex} (h : Regex.read (alternation lines) = .ok r) :
    ∃ rs, List.Forall₂ (fun line r => Regex.read line = .ok r) lines rs ∧ r = Expr.choice rs := by
  obtain ⟨us, hends⟩ := hlines.ends
  obtain ⟨v, haccepts, hv⟩ := read_eq_ok.mp h
  obtain ⟨-, -, hgroup⟩ := hends.accepts hne rfl rfl haccepts
  obtain ⟨-, hdepth, hroom, hregex⟩ := regex_eq_ok.mp hv
  have hus : us ≠ [] := by
    rintro rfl
    cases hends
    exact hne rfl
  rw [hgroup] at hdepth hroom hregex
  refine ⟨us.map fun u => u.group.close.regex, ?_, ?_⟩
  · refine hends.read fun u hu => ?_
    -- the choice is within the bounds, and no line is larger than the choice
    have hle := le_joined (List.mem_map_of_mem (f := partOf) hu)
    have hdepth' : (partOf u).depth = u.group.close.depth + 1 := rfl
    have hroom' : (partOf u).room = u.group.close.room + 2 * stateRoom := rfl
    exact ⟨by have := hle.1.trans hdepth; omega, by have := hle.2.trans hroom; omega⟩
  · rw [← hregex, ← partOf_regex]
    exact joined_regex (by simpa using hus)

/-- Lines that stand for expressions on their own fit, if their alternation can be read. -/
theorem separate_of_read {lines : List (List Char)} {rs : List Regex}
    (hlines : List.Forall₂ (fun line r => Regex.read line = .ok r) lines rs)
    (hnewline : ∀ line ∈ lines, '\n' ∉ line) {r : Regex}
    (h : Regex.read (alternation lines) = .ok r) : Separate lines := by
  obtain ⟨us, hus⟩ : ∃ us, List.Forall₂ (fun line u => Accepts {} line u ∧ u.outer = []) lines us := by
    clear h hnewline
    induction hlines with
    | nil => exact ⟨[], .nil⟩
    | cons hline _ ih =>
      obtain ⟨us, hus⟩ := ih
      obtain ⟨u, haccepts, hu⟩ := read_eq_ok.mp hline
      exact ⟨u :: us, .cons ⟨haccepts, (regex_eq_ok.mp hu).1⟩ hus⟩
  obtain ⟨v, haccepts, hv⟩ := read_eq_ok.mp h
  exact (ends_of_accepts hus hnewline rfl rfl haccepts (regex_eq_ok.mp hv).1).separate

end Pattern

end SecretScan
