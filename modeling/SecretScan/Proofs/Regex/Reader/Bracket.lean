import SecretScan.Proofs.Regex.Reader.Pieces

/-!
# Bracket expressions and what comes after them

A bracket expression is known from its own characters.  Its members are not: a hyphen after a member
makes a range or not depending on what comes next.  But the bracket ends with a closing bracket, so
what comes next is never beyond the bracket.
-/

namespace SecretScan.Regex.Reader

/-! ## 1. The start of a bracket -/

theorem readHyphens_cons_succ (verbose : Bool) (b : OpenBracket) (n : Nat) (cs : List Char) :
    readHyphens verbose b (n + 1) ('-' :: cs) =
      readHyphens verbose (b.push ⟨.single '-', 0⟩) n (skip verbose cs) := by
  rw [readHyphens]

theorem readHyphens_of_ne (verbose : Bool) (b : OpenBracket) {cs : List Char}
    (h : cs.head? ≠ some '-') (n : Nat) : readHyphens verbose b n cs = (b, cs) := by
  cases n with
  | zero => rfl
  | succ n =>
    unfold readHyphens
    split
    next => exact absurd rfl h
    next => rfl

theorem readHyphens_fuel (verbose : Bool) (b : OpenBracket) {n m : Nat} {cs : List Char}
    (hn : cs.length ≤ n) (hm : cs.length ≤ m) :
    readHyphens verbose b n cs = readHyphens verbose b m cs := by
  induction n generalizing b m cs with
  | zero =>
    obtain rfl : cs = [] := List.length_eq_zero_iff.mp (Nat.le_zero.mp hn)
    cases m <;> rfl
  | succ n ih =>
    -- each hyphen costs one unit of fuel and one character
    by_cases hhead : cs.head? = some '-'
    · obtain ⟨cs, rfl⟩ := List.head?_eq_some_iff.mp hhead
      have hle := skip_length_le verbose cs
      simp only [List.length_cons] at hn hm
      obtain ⟨m, rfl⟩ : ∃ k, m = k + 1 := ⟨m - 1, by omega⟩
      rw [readHyphens_cons_succ, readHyphens_cons_succ]
      exact ih _ (by omega) (by omega)
    · rw [readHyphens_of_ne verbose b hhead, readHyphens_of_ne verbose b hhead]

theorem readHyphens_cons (verbose : Bool) (b : OpenBracket) (cs : List Char) :
    readHyphens verbose b ('-' :: cs).length ('-' :: cs) =
      readHyphens verbose (b.push ⟨.single '-', 0⟩) (skip verbose cs).length (skip verbose cs) := by
  rw [List.length_cons, readHyphens_cons_succ]
  exact readHyphens_fuel verbose _ (skip_length_le verbose cs) (Nat.le_refl _)

theorem readHyphens_suffix (verbose : Bool) (b : OpenBracket) (n : Nat) (cs : List Char) :
    (readHyphens verbose b n cs).2 <:+ cs := by
  induction n generalizing b cs with
  | zero => exact List.suffix_refl _
  | succ n ih =>
    by_cases hhead : cs.head? = some '-'
    · obtain ⟨cs, rfl⟩ := List.head?_eq_some_iff.mp hhead
      rw [readHyphens_cons_succ]
      exact (ih _ _).trans ((skip_suffix verbose cs).trans (List.suffix_cons _ _))
    · rw [readHyphens_of_ne verbose b hhead]

theorem readHyphens_append (verbose : Bool) (b : OpenBracket) {cs : List Char}
    (h : (readHyphens verbose b cs.length cs).2 ≠ []) (more : List Char) :
    readHyphens verbose b (cs ++ more).length (cs ++ more) =
      ((readHyphens verbose b cs.length cs).1,
        (readHyphens verbose b cs.length cs).2 ++ more) := by
  -- hyphen after hyphen, as each one is followed by a shorter text
  induction hn : cs.length using Nat.strong_induction_on generalizing b cs with
  | h n ih =>
    rw [← hn]
    by_cases hhead : cs.head? = some '-'
    · obtain ⟨cs, rfl⟩ := List.head?_eq_some_iff.mp hhead
      have hlt : (skip verbose cs).length < n := by
        have := skip_length_le verbose cs
        rw [List.length_cons] at hn
        omega
      rw [readHyphens_cons] at h
      have hskip : skip verbose cs ≠ [] := by
        intro hnil
        rw [hnil] at h
        exact h rfl
      rw [List.cons_append, readHyphens_cons, skip_append hskip, readHyphens_cons]
      rw [ih _ hlt _ h rfl]
    · rw [readHyphens_of_ne verbose b hhead] at h ⊢
      have hhead' : (cs ++ more).head? ≠ some '-' := by
        rw [List.head?_append_of_ne_nil cs h]
        exact hhead
      rw [readHyphens_of_ne verbose b hhead']

theorem readHyphens_append_suffix (verbose : Bool) (b : OpenBracket) {cs : List Char}
    (h : (readHyphens verbose b cs.length cs).2 = []) (more : List Char) :
    (readHyphens verbose b (cs ++ more).length (cs ++ more)).2 <:+ more := by
  -- hyphen after hyphen, as in `readHyphens_append`
  induction hn : cs.length using Nat.strong_induction_on generalizing b cs with
  | h n ih =>
    by_cases hhead : cs.head? = some '-'
    · obtain ⟨cs, rfl⟩ := List.head?_eq_some_iff.mp hhead
      have hlt : (skip verbose cs).length < n := by
        have := skip_length_le verbose cs
        rw [List.length_cons] at hn
        omega
      rw [readHyphens_cons] at h
      rw [List.cons_append, readHyphens_cons]
      by_cases hskip : skip verbose cs = []
      · exact (readHyphens_suffix verbose _ _ _).trans (skip_append_suffix hskip more)
      · rw [skip_append hskip]
        exact ih _ hlt _ h rfl
    · rw [readHyphens_of_ne verbose b hhead] at h
      obtain rfl : cs = [] := h
      exact readHyphens_suffix verbose b _ more

theorem runs_readHyphens (verbose : Bool) (b : OpenBracket) :
    Runs fun cs => readHyphens verbose b cs.length cs where
  suffix cs := readHyphens_suffix verbose b _ cs
  extend _ more h := readHyphens_append verbose b h more
  beyond _ more h := readHyphens_append_suffix verbose b h more

/-- Passes over a sign and over what is hidden after it. -/
def passSign (verbose : Bool) (sign : Char) (found missing : α) (cs : List Char) : α × List Char :=
  if cs.head? = some sign then (found, skip verbose cs.tail) else (missing, cs)

theorem runs_passSign (verbose : Bool) (sign : Char) (found missing : α) :
    Runs (passSign verbose sign found missing) where
  suffix cs := by
    unfold passSign
    split_ifs
    · exact (skip_suffix verbose _).trans (List.tail_suffix cs)
    · exact List.suffix_refl _
  extend cs more h := by
    cases cs with
    | nil => simp [passSign] at h
    | cons c cs =>
      -- the sign is passed over with what is hidden after it, and any other character is left
      by_cases hc : c = sign
      · simp only [passSign, hc, List.head?_cons, List.tail_cons, if_true] at h
        simp [passSign, hc, skip_append h]
      · simp [passSign, hc]
  beyond cs more h := by
    cases cs with
    | nil =>
      rw [List.nil_append, passSign]
      split_ifs
      · exact (skip_suffix verbose _).trans (List.tail_suffix more)
      · exact List.suffix_refl _
    | cons c cs =>
      by_cases hc : c = sign
      · simp only [passSign, hc, List.head?_cons, List.tail_cons, if_true] at h
        simp only [passSign, hc, List.cons_append, List.head?_cons, List.tail_cons, if_true]
        exact skip_append_suffix h more
      · simp [passSign, hc] at h

/-- A caret at the start negates a bracket. -/
def passCaret (verbose : Bool) (cs : List Char) : Bool × List Char :=
  match cs with
  | '^' :: rest => (true, skip verbose rest)
  | _ => (false, cs)

/-- A closing bracket stands for itself if nothing came before it. -/
def passClosing (verbose : Bool) (b : OpenBracket) (cs : List Char) : OpenBracket × List Char :=
  match b.members, cs with
  | [], ']' :: rest => (b.push ⟨.single ']', 0⟩, skip verbose rest)
  | _, _ => (b, cs)

theorem runs_passCaret (verbose : Bool) : Runs (passCaret verbose) := by
  have heq : passCaret verbose = passSign verbose '^' true false := by
    funext cs
    unfold passCaret passSign
    split
    next => rfl
    next hnot =>
      rw [if_neg]
      intro hhead
      obtain ⟨rest, hrest⟩ := List.head?_eq_some_iff.mp hhead
      exact hnot rest hrest
  rw [heq]
  exact runs_passSign verbose '^' true false

theorem runs_passClosing (verbose : Bool) (b : OpenBracket) : Runs (passClosing verbose b) := by
  by_cases hmembers : b.members = []
  · -- a bracket with members takes no closing bracket for itself
    have heq : passClosing verbose b = passSign verbose ']' (b.push ⟨.single ']', 0⟩) b := by
      funext cs
      unfold passClosing passSign
      split
      next => rfl
      next hnot =>
        rw [if_neg]
        intro hhead
        obtain ⟨rest, hrest⟩ := List.head?_eq_some_iff.mp hhead
        exact hnot rest hmembers hrest
    rw [heq]
    exact runs_passSign verbose ']' _ b
  · have heq : passClosing verbose b = fun cs => (b, cs) := by
      funext cs
      unfold passClosing
      split
      next hnil => exact absurd hnil hmembers
      next => rfl
    rw [heq]
    exact ⟨fun cs => List.suffix_refl _, fun cs more _ => rfl, fun cs more h => by
      simp only at h
      simp [h]⟩

theorem openBracket_eq (verbose : Bool) (cs : List Char) :
    openBracket verbose cs =
      let visible := passCaret verbose (skip verbose cs)
      let opened := readHyphens verbose ⟨visible.1, none, []⟩ visible.2.length visible.2
      passClosing verbose opened.1 opened.2 := rfl

theorem runs_openBracket (verbose : Bool) : Runs (openBracket verbose) := by
  have hruns := Runs.comp (Runs.comp (Runs.comp (runs_skip verbose) fun _ =>
    runs_passCaret verbose)
    fun negated => runs_readHyphens verbose ⟨negated, none, []⟩)
    fun b => runs_passClosing verbose b
  have heq := funext (openBracket_eq verbose)
  rw [heq]
  exact hruns

/-! ## 2. Members -/

theorem asciiClass?_none {name : String} {c : Char} (hmem : c ∈ name.toList)
    (hc : c.isLower = false) : asciiClass? name = none := by
  have hclasses : ∀ p ∈ asciiClass?.classes, p.1.toList.all Char.isLower = true := by decide
  unfold asciiClass?
  rw [Option.map_eq_none_iff, List.find?_eq_none]
  intro p hp hname
  rw [beq_iff_eq] at hname
  -- all names are made of small letters
  have hall := List.all_eq_true.mp (hclasses p hp) c (hname ▸ hmem)
  rw [hc] at hall
  cases hall

/-- The name of a class and the signs that end it. -/
def namedClass? (negated : Bool) (cs : List Char) : Option (CharSet × Bool × List Char) :=
  match cs.dropWhile (· != ':') with
  | ':' :: ']' :: rest =>
    (asciiClass? (String.ofList (cs.takeWhile (· != ':')))).map (·, negated, rest)
  | _ => none

theorem asciiClassHere?_eq (cs : List Char) :
    asciiClassHere? cs =
      if cs.head? = some ':' then
        if cs.tail.head? = some '^' then namedClass? true cs.tail.tail
        else namedClass? false cs.tail
      else none := by
  unfold asciiClassHere?
  split
  next cs =>
    cases cs with
    | nil => rfl
    | cons c cs =>
      by_cases hc : c = '^'
      · subst hc
        rfl
      · simp [hc]
        rfl
  next hnot =>
    rw [if_neg]
    intro hhead
    obtain ⟨rest, hrest⟩ := List.head?_eq_some_iff.mp hhead
    exact hnot rest hrest

theorem namedClass?_some {negated negated' : Bool} {cs rest : List Char} {s : CharSet}
    (h : namedClass? negated cs = some (s, negated', rest)) :
    ∃ name, ']' ∉ name ∧ cs = name ++ ']' :: rest ∧
      ∀ more, namedClass? negated (name ++ ']' :: more) = some (s, negated', more) := by
  unfold namedClass? at h
  split at h
  next rest' hdrop =>
    rw [Option.map_eq_some_iff] at h
    obtain ⟨s', hclass, heq⟩ := h
    cases heq
    obtain ⟨before, hcs, hstop⟩ := (runs_takeWhile (· != ':')).stop
      (a := cs.takeWhile (· != ':')) (by rw [hdrop])
    -- the name is what comes before the colon
    have hname : cs.takeWhile (· != ':') = before := by
      have hsplit := List.takeWhile_append_dropWhile (p := (· != ':')) (l := cs)
      rw [hdrop] at hsplit
      exact List.append_cancel_right (hsplit.trans hcs)
    rw [hname] at hclass hstop
    refine ⟨before ++ [':'], ?_, by simp [hcs], fun more => ?_⟩
    · intro hmem
      have hmem' : ']' ∈ (String.ofList before).toList := by simpa using hmem
      rw [asciiClass?_none hmem' (by decide)] at hclass
      cases hclass
    · have hstop' := Prod.mk.inj (hstop (']' :: more))
      simp only [namedClass?, List.append_assoc, List.cons_append, List.nil_append, hstop'.1,
        hstop'.2, hclass, Option.map_some]
  next => cases h

/-- A named class is known from its own characters, of which the last is a closing bracket. -/
theorem asciiClassHere?_some {cs rest : List Char} {s : CharSet} {negated : Bool}
    (h : asciiClassHere? cs = some (s, negated, rest)) :
    ∃ name, ']' ∉ name ∧ cs = name ++ ']' :: rest ∧
      ∀ more, asciiClassHere? (name ++ ']' :: more) = some (s, negated, more) := by
  rw [asciiClassHere?_eq] at h
  split_ifs at h with hcolon hcaret
  · obtain ⟨cs, rfl⟩ := List.head?_eq_some_iff.mp hcolon
    obtain ⟨cs, rfl⟩ := List.head?_eq_some_iff.mp hcaret
    obtain ⟨name, hmem, hcs, hmore⟩ := namedClass?_some h
    simp only [List.tail_cons] at hcs
    refine ⟨':' :: '^' :: name, by simp [hmem], by simp [hcs], fun more => ?_⟩
    rw [asciiClassHere?_eq]
    exact hmore more
  · obtain ⟨cs, rfl⟩ := List.head?_eq_some_iff.mp hcolon
    obtain ⟨name, hmem, hcs, hmore⟩ := namedClass?_some h
    simp only [List.tail_cons] at hcs hcaret
    -- the name begins with a caret, or it does not, whatever comes after its end
    have hcaret' : ∀ more, (name ++ ']' :: more).head? ≠ some '^' := by
      intro more
      cases name with
      | nil => simp
      | cons c name => simpa [hcs] using hcaret
    refine ⟨':' :: name, by simp [hmem], by simp [hcs], fun more => ?_⟩
    rw [asciiClassHere?_eq, List.cons_append, List.head?_cons, if_pos rfl, List.tail_cons,
      if_neg (hcaret' more)]
    exact hmore more

/-- A text that starts no named class starts none with other characters after a closing bracket. -/
theorem asciiClassHere?_none {before rest : List Char}
    (h : asciiClassHere? (before ++ ']' :: rest) = none) (more : List Char) :
    asciiClassHere? (before ++ ']' :: more) = none := by
  by_contra hsome
  obtain ⟨⟨s, negated, rest'⟩, hclass⟩ := Option.ne_none_iff_exists'.mp hsome
  obtain ⟨name, hmem, heq, hmore⟩ := asciiClassHere?_some hclass
  -- a class ends at its first closing bracket, which lies in `before` or right after it
  rcases List.append_eq_append_iff.mp heq with ⟨between, hname, hbetween⟩ | ⟨between, rfl, hbetween⟩
  · cases between with
    | nil =>
      rw [List.append_nil] at hname
      rw [← hname, hmore] at h
      cases h
    | cons c between =>
      cases hbetween
      exact hmem (by simp [hname])
  · cases between with
    | nil =>
      rw [List.append_nil, hmore] at h
      cases h
    | cons c between =>
      cases hbetween
      rw [List.append_assoc, List.cons_append, hmore] at h
      cases h

/-- The atom that a character stands for. -/
def literalAtom (f : Flags) (c : Char) : Except ReadError Atom :=
  if f.unicode || c.toNat < 0x80 then .ok (.char c) else .error .needsUnicode

/-- The atom that an escape stands for. -/
def escapedAtom (f : Flags) : Escape → Except ReadError Atom
  | .char c _ => literalAtom f c
  | .letter k negated => (f.negate negated (k.set f.unicode)).map .set
  | .property name value negated => (f.propertySet name value negated).map .set
  | .textStart | .textEnd | .edge _ => .error .badEscape

theorem literal_eq (f : Flags) (c : Char) (rest : List Char) :
    readAtom.literal f c rest = (literalAtom f c).map fun a => (a, rest) := by
  unfold readAtom.literal literalAtom
  split_ifs <;> rfl

theorem readAtom_escape (f : Flags) (cs : List Char) :
    readAtom f ('\\' :: cs) =
      readEscape f.verbose cs >>= fun x => (escapedAtom f x.1).map fun a => (a, x.2) := by
  rw [readAtom]
  congr
  funext x
  obtain ⟨e, rest⟩ := x
  cases e with
  | char c byte => exact literal_eq f c rest
  | letter k negated =>
    cases hset : f.negate negated (k.set f.unicode) <;> simp [escapedAtom, hset] <;> rfl
  | property name value negated =>
    cases hset : f.propertySet name value negated <;> simp [escapedAtom, hset] <;> rfl
  | textStart => rfl
  | textEnd => rfl
  | edge e => rfl

/-- One character or escape in a bracket is known from its own characters. -/
theorem firm_readAtom (f : Flags) : Firm (readAtom f) := by
  intro cs a rest h
  cases cs with
  | nil => cases h
  | cons c cs =>
    by_cases hslash : c = '\\'
    · subst hslash
      rw [readAtom_escape] at h
      cases hescape : readEscape f.verbose cs with
      | error e =>
        rw [hescape] at h
        cases h
      | ok x =>
        rw [hescape] at h
        obtain ⟨e, rest'⟩ := x
        -- the meaning of the escape is found after its characters have been taken
        have hatom : escapedAtom f e = .ok a ∧ rest' = rest := by
          replace h : (escapedAtom f e).map (fun a => (a, rest')) = .ok (a, rest) := h
          cases hatom : escapedAtom f e <;> rw [hatom] at h <;> cases h
          exact ⟨rfl, rfl⟩
        obtain ⟨hatom, rfl⟩ := hatom
        rcases readEscape_firm hescape with ⟨taken, -, hcs, hgives⟩ | ⟨he, -⟩
        · refine ⟨'\\' :: taken, by simp, by simp [hcs], fun more => ?_⟩
          rw [List.cons_append, readAtom_escape, hgives more]
          show (escapedAtom f e).map _ = _
          rw [hatom]
          rfl
        · rw [he] at hatom
          cases hatom
    · have heq : ∀ cs, readAtom f (c :: cs) = readAtom.literal f c cs := by
        intro cs
        rw [readAtom]
        exact fun h => absurd h hslash
      rw [heq, literal_eq] at h
      obtain ⟨taken, hcs, hgives⟩ := settled_pure (literalAtom f c) cs a rest h
      refine ⟨c :: taken, by simp, by simp [hcs], fun more => ?_⟩
      rw [List.cons_append, heq, literal_eq]
      exact hgives more

/-- What is in sight after a hyphen is not beyond a closing bracket. -/
theorem peek_append (verbose : Bool) {kept : List Char} (h : ']' ∈ kept) (more : List Char) :
    peek verbose (kept ++ more) = peek verbose kept := by
  -- blanks end before the closing bracket at the latest
  have hdrop : ∀ {cs : List Char}, ']' ∈ cs →
      (cs ++ more).dropWhile isBlank = cs.dropWhile isBlank ++ more ∧ ']' ∈ cs.dropWhile isBlank := by
    intro cs hmem
    have hkeep : ']' ∈ cs.dropWhile isBlank := by
      rw [← List.takeWhile_append_dropWhile (p := isBlank) (l := cs), List.mem_append] at hmem
      refine hmem.resolve_left fun htake => ?_
      exact absurd (List.mem_takeWhile_imp htake) (by decide)
    have hne : (cs.dropWhile isBlank).isEmpty = false := by
      rw [List.isEmpty_eq_false_iff]
      exact List.ne_nil_of_mem hkeep
    exact ⟨by rw [List.dropWhile_append, hne]; rfl, hkeep⟩
  have hhead : ∀ {cs : List Char}, ']' ∈ cs → (cs ++ more).head? = cs.head? :=
    fun hmem => List.head?_append_of_ne_nil _ (List.ne_nil_of_mem hmem)
  unfold peek
  cases verbose with
  | false => exact hhead h
  | true =>
    obtain ⟨hkept, hmem⟩ := hdrop h
    rw [if_pos rfl, if_pos rfl, hkept]
    obtain ⟨c, rest, hrest⟩ := List.exists_cons_of_ne_nil (List.ne_nil_of_mem hmem)
    rw [hrest] at hmem ⊢
    -- a single sharp is passed over, and the bracket still comes after it
    by_cases hc : c = '#'
    · subst hc
      have hmem' : ']' ∈ rest := (List.mem_cons.mp hmem).resolve_left (by decide)
      obtain ⟨hrest', hmem''⟩ := hdrop hmem'
      show ((rest ++ more).dropWhile isBlank).head? = (rest.dropWhile isBlank).head?
      rw [hrest']
      exact hhead hmem''
    · simp [hc]

/-- The range between two atoms. -/
def rangeTo : Atom → Atom → Except ReadError Member
  | .char lo, .char hi =>
    if lo ≤ hi then .ok ⟨.range lo.toNat hi.toNat, 0⟩ else .error .badRange
  | _, _ => .error .badRange

/-- The second end of a range. -/
def readRange (f : Flags) (first : Atom) (cs : List Char) :
    Except ReadError (Member × List Char) :=
  readAtom f cs >>= fun x => (rangeTo first x.1).map fun m => (m, x.2)

theorem firm_readRange (f : Flags) (first : Atom) : Firm (readRange f first) :=
  (firm_readAtom f).bind fun second => settled_pure (rangeTo first second)

theorem readMember_hyphen {f : Flags} {cs rest rest' : List Char} {first : Atom}
    (hfirst : readAtom f cs = .ok (first, rest)) (hskip : skip f.verbose rest = '-' :: rest') :
    readMember f cs =
      if peek f.verbose rest' == some ']' || peek f.verbose rest' == some '-' then
        .ok (⟨readMember.alone first, 0⟩, '-' :: rest')
      else readRange f first (skip f.verbose rest') := by
  unfold readMember readRange
  rw [hfirst]
  simp only [bind, Except.bind, hskip]
  split_ifs
  · rfl
  · cases readAtom f (skip f.verbose rest') with
    | error e => rfl
    | ok x =>
      obtain ⟨second, rest⟩ := x
      -- a range has characters at both ends
      cases first <;> cases second <;> try rfl
      simp only [rangeTo]
      split_ifs <;> rfl

theorem readMember_alone {f : Flags} {cs rest rest' : List Char} {first : Atom} {c : Char}
    (hfirst : readAtom f cs = .ok (first, rest)) (hskip : skip f.verbose rest = c :: rest')
    (hc : c ≠ '-') : readMember f cs = .ok (⟨readMember.alone first, 0⟩, c :: rest') := by
  unfold readMember
  rw [hfirst]
  simp only [bind, Except.bind, hskip]
  split
  next h => cases h
  next h => exact absurd (List.cons.inj h).1 hc
  next => rfl

/-- A member starts with an atom, and the sign after the atom is in sight. -/
theorem readMember_atom {f : Flags} {cs : List Char} {x : Member × List Char}
    (h : readMember f cs = .ok x) :
    ∃ taken first c rest, taken ≠ [] ∧ cs = taken ++ c :: rest ∧
      ∀ more, ∃ after, readAtom f (taken ++ c :: more) = .ok (first, after) ∧
        skip f.verbose after = c :: more := by
  unfold readMember at h
  cases hfirst : readAtom f cs with
  | error e =>
    rw [hfirst] at h
    cases h
  | ok y =>
    obtain ⟨first, after⟩ := y
    obtain ⟨taken, hne, rfl, hgives⟩ := firm_readAtom f _ _ _ hfirst
    cases hskip : skip f.verbose after with
    | nil =>
      simp only [hfirst, bind, Except.bind, hskip] at h
      cases h
    | cons c rest =>
      obtain ⟨before, rfl, hstop⟩ := skip_stop hskip
      refine ⟨taken ++ before, first, c, rest, by simp [hne], by simp, fun more => ?_⟩
      refine ⟨before ++ c :: more, ?_, hstop more⟩
      rw [List.append_assoc]
      exact hgives _

/-- A member of a bracket is known from the characters up to a closing bracket after it. -/
theorem readMember_append {f : Flags} {cs kept final : List Char} {m : Member}
    (h : readMember f cs = .ok (m, kept ++ final)) (hkept : ']' ∈ kept) :
    ∃ taken, taken ≠ [] ∧ cs = taken ++ (kept ++ final) ∧
      ∀ more, readMember f (taken ++ (kept ++ more)) = .ok (m, kept ++ more) := by
  obtain ⟨taken, first, c, rest, hne, rfl, hatom⟩ := readMember_atom h
  obtain ⟨after, hfirst, hskip⟩ := hatom rest
  by_cases hc : c = '-'
  · subst hc
    rw [readMember_hyphen hfirst hskip] at h
    split_ifs at h with hahead
    · -- the hyphen is left to the bracket, and so is all that was looked at
      obtain ⟨rfl, hkeep⟩ := Prod.mk.inj (Except.ok.inj h)
      obtain ⟨d, kept, rfl⟩ := List.exists_cons_of_ne_nil (List.ne_nil_of_mem hkept)
      obtain ⟨rfl, rfl⟩ := List.cons.inj hkeep
      have hmem : ']' ∈ kept := (List.mem_cons.mp hkept).resolve_left (by decide)
      refine ⟨taken, hne, rfl, fun more => ?_⟩
      obtain ⟨after, hfirst, hskip⟩ := hatom (kept ++ more)
      rw [List.append_eq, peek_append _ hmem] at hahead
      rw [List.cons_append, readMember_hyphen hfirst hskip, peek_append _ hmem, if_pos hahead]
    · have hfirm := Firm.comp (runs_skip f.verbose) fun _ => firm_readRange f first
      obtain ⟨second, -, rfl, hgives⟩ := hfirm _ _ _ h
      have hpeek : ∀ more, peek f.verbose (second ++ (kept ++ more)) =
          peek f.verbose (second ++ kept) := by
        intro more
        rw [← List.append_assoc, peek_append _ (List.mem_append_right _ hkept)]
      refine ⟨taken ++ '-' :: second, by simp [hne], by simp, fun more => ?_⟩
      obtain ⟨after, hfirst, hskip⟩ := hatom (second ++ (kept ++ more))
      rw [hpeek] at hahead
      rw [List.append_assoc, List.cons_append, readMember_hyphen hfirst hskip, hpeek,
        if_neg hahead]
      exact hgives (kept ++ more)
  · rw [readMember_alone hfirst hskip hc] at h
    obtain ⟨rfl, hkeep⟩ := Prod.mk.inj (Except.ok.inj h)
    obtain ⟨d, kept, rfl⟩ := List.exists_cons_of_ne_nil (List.ne_nil_of_mem hkept)
    obtain ⟨rfl, rfl⟩ := List.cons.inj hkeep
    refine ⟨taken, hne, rfl, fun more => ?_⟩
    obtain ⟨after, hfirst, hskip⟩ := hatom (kept ++ more)
    exact readMember_alone hfirst hskip hc

/-! ## 3. The whole bracket -/

/-- The operation that two signs stand for. -/
def setOp? (c d : Char) : Option SetOp :=
  if c = d then
    match c with
    | '&' => some .inter
    | '-' => some .diff
    | '~' => some .symmDiff
    | _ => none
  else none

section Rounds

variable {f : Flags} {inner : OpenBracket} {outer : List OpenBracket} {cs rest : List Char}

theorem readBracketFrom_class (fuel : Nat) {s : CharSet} {negated : Bool} {rest' : List Char}
    (hskip : skip f.verbose cs = '[' :: rest)
    (hclass : asciiClassHere? rest = some (s, negated, rest')) :
    readBracketFrom f (fuel + 1) inner outer cs =
      f.negate negated (f.fold s) >>= fun set =>
        readBracketFrom f fuel (inner.push ⟨set, 0⟩) outer rest' := by
  rw [readBracketFrom, hskip]
  simp only [hclass]

theorem readBracketFrom_open (fuel : Nat) (hskip : skip f.verbose cs = '[' :: rest)
    (hclass : asciiClassHere? rest = none) :
    readBracketFrom f (fuel + 1) inner outer cs =
      readBracketFrom f fuel (openBracket f.verbose rest).1 (inner :: outer)
        (openBracket f.verbose rest).2 := by
  rw [readBracketFrom, hskip]
  simp only [hclass]

theorem readBracketFrom_last (fuel : Nat) (hskip : skip f.verbose cs = ']' :: rest) :
    readBracketFrom f (fuel + 1) inner [] cs =
      (inner.close f).map fun closed => (closed, rest) := by
  rw [readBracketFrom, hskip]
  rfl

theorem readBracketFrom_close (fuel : Nat) (b : OpenBracket)
    (hskip : skip f.verbose cs = ']' :: rest) :
    readBracketFrom f (fuel + 1) inner (b :: outer) cs =
      inner.close f >>= fun closed => readBracketFrom f fuel (b.push closed) outer rest := by
  rw [readBracketFrom, hskip]
  rfl

theorem readBracketFrom_op (fuel : Nat) {c d : Char} {op : SetOp}
    (hskip : skip f.verbose cs = c :: d :: rest) (hop : setOp? c d = some op) :
    readBracketFrom f (fuel + 1) inner outer cs =
      readBracketFrom f fuel (inner.operate f op) outer rest := by
  unfold setOp? at hop
  split_ifs at hop with heq
  subst heq
  rw [readBracketFrom, hskip]
  split at hop <;> cases hop <;> rfl

theorem readBracketFrom_member (fuel : Nat) {c : Char} (hskip : skip f.verbose cs = c :: rest)
    (hop : ∀ d, rest.head? = some d → setOp? c d = none) (hopen : c ≠ '[') (hclose : c ≠ ']') :
    readBracketFrom f (fuel + 1) inner outer cs =
      readMember f (c :: rest) >>= fun x => readBracketFrom f fuel (inner.push x.1) outer x.2 := by
  rw [readBracketFrom, hskip]
  split
  next h => cases h
  next h => exact absurd (List.cons.inj h).1 hopen
  next h => exact absurd (List.cons.inj h).1 hclose
  next h => cases h; cases hop _ rfl
  next h => cases h; cases hop _ rfl
  next h => cases h; cases hop _ rfl
  next => rfl

end Rounds

/-- A result of one step after the other comes from a result of the first one. -/
theorem bind_eq_ok {ε : Type} {x : Except ε α} {next : α → Except ε β} {b : β}
    (h : x >>= next = .ok b) : ∃ a, x = .ok a ∧ next a = .ok b := by
  cases x with
  | error e => cases h
  | ok a => exact ⟨a, rfl, h⟩

/-- The characters `taken` and a closing bracket are the rest of a bracket, whatever comes after. -/
def Closes (f : Flags) (inner : OpenBracket) (outer : List OpenBracket) (taken : List Char)
    (m : Member) : Prop :=
  ∀ more fuel, taken.length + more.length + 1 < fuel →
    readBracketFrom f fuel inner outer (taken ++ ']' :: more) = .ok (m, more)

theorem Closes.round {f : Flags} {inner inner' : OpenBracket} {outer outer' : List OpenBracket}
    {first taken : List Char} {m : Member} (h : Closes f inner' outer' taken m) (hfirst : first ≠ [])
    (hround : ∀ more fuel, readBracketFrom f (fuel + 1) inner outer (first ++ (taken ++ ']' :: more)) =
      readBracketFrom f fuel inner' outer' (taken ++ ']' :: more)) :
    Closes f inner outer (first ++ taken) m := by
  intro more fuel hfuel
  have hpos := List.length_pos_of_ne_nil hfirst
  rw [List.length_append] at hfuel
  obtain ⟨fuel, rfl⟩ : ∃ k, fuel = k + 1 := ⟨fuel - 1, by omega⟩
  rw [List.append_assoc, hround]
  exact h more fuel (by omega)

/-- The characters `cs` are the rest of a bracket, its closing bracket and `rest`. -/
def Ends (f : Flags) (inner : OpenBracket) (outer : List OpenBracket) (cs rest : List Char)
    (m : Member) : Prop :=
  ∃ taken, cs = taken ++ ']' :: rest ∧ Closes f inner outer taken m

section Ends

variable {f : Flags} {inner : OpenBracket} {outer : List OpenBracket}
  {cs visible cs' rest : List Char} {m : Member}

theorem Ends.of_class {s set : CharSet} {negated : Bool}
    (h : Ends f (inner.push ⟨set, 0⟩) outer cs' rest m)
    (hskip : skip f.verbose cs = '[' :: visible)
    (hclass : asciiClassHere? visible = some (s, negated, cs'))
    (hset : f.negate negated (f.fold s) = .ok set) : Ends f inner outer cs rest m := by
  obtain ⟨before, rfl, hstop⟩ := skip_stop hskip
  obtain ⟨name, -, rfl, hmore⟩ := asciiClassHere?_some hclass
  obtain ⟨taken, rfl, hcloses⟩ := h
  refine ⟨before ++ '[' :: (name ++ [']']) ++ taken, by simp,
    hcloses.round (by simp) fun more fuel => ?_⟩
  simp only [List.append_assoc, List.cons_append, List.nil_append]
  rw [readBracketFrom_class fuel (hstop _) (hmore _), hset]
  rfl

theorem Ends.of_open
    (h : Ends f (openBracket f.verbose visible).1 (inner :: outer)
      (openBracket f.verbose visible).2 rest m)
    (hskip : skip f.verbose cs = '[' :: visible) (hclass : asciiClassHere? visible = none) :
    Ends f inner outer cs rest m := by
  obtain ⟨before, rfl, hstop⟩ := skip_stop hskip
  obtain ⟨taken, hrest, hcloses⟩ := h
  -- an opening is known from what comes up to the closing bracket that ends `taken`
  have hopen : openBracket f.verbose visible =
      ((openBracket f.verbose visible).1, (taken ++ [']']) ++ rest) :=
    Prod.ext rfl (by simpa using hrest)
  obtain ⟨opening, hvisible, hopening⟩ :=
    (runs_openBracket f.verbose).stop_append (by simp) hopen
  refine ⟨before ++ '[' :: opening ++ taken, by simp [hvisible],
    hcloses.round (by simp) fun more fuel => ?_⟩
  simp only [List.append_assoc, List.cons_append, List.nil_append] at hopening hvisible ⊢
  rw [hvisible, ← List.append_assoc] at hclass
  have hclass' := asciiClassHere?_none hclass more
  rw [List.append_assoc] at hclass'
  rw [readBracketFrom_open fuel (hstop _) hclass', hopening]

theorem Ends.of_last (hskip : skip f.verbose cs = ']' :: rest) (hclosed : inner.close f = .ok m) :
    Ends f inner [] cs rest m := by
  obtain ⟨before, rfl, hstop⟩ := skip_stop hskip
  refine ⟨before, rfl, fun more fuel hfuel => ?_⟩
  obtain ⟨fuel, rfl⟩ : ∃ k, fuel = k + 1 := ⟨fuel - 1, by omega⟩
  rw [readBracketFrom_last fuel (hstop _), hclosed]
  rfl

theorem Ends.of_close {b : OpenBracket} {closed : Member}
    (h : Ends f (b.push closed) outer visible rest m)
    (hskip : skip f.verbose cs = ']' :: visible) (hclosed : inner.close f = .ok closed) :
    Ends f inner (b :: outer) cs rest m := by
  obtain ⟨before, rfl, hstop⟩ := skip_stop hskip
  obtain ⟨taken, rfl, hcloses⟩ := h
  refine ⟨before ++ [']'] ++ taken, by simp, hcloses.round (by simp) fun more fuel => ?_⟩
  simp only [List.append_assoc, List.cons_append, List.nil_append]
  rw [readBracketFrom_close fuel b (hstop _), hclosed]
  rfl

theorem Ends.of_op {c d : Char} {op : SetOp} (h : Ends f (inner.operate f op) outer cs' rest m)
    (hskip : skip f.verbose cs = c :: d :: cs') (hop : setOp? c d = some op) :
    Ends f inner outer cs rest m := by
  obtain ⟨before, rfl, hstop⟩ := skip_stop hskip
  obtain ⟨taken, rfl, hcloses⟩ := h
  refine ⟨before ++ [c, d] ++ taken, by simp, hcloses.round (by simp) fun more fuel => ?_⟩
  simp only [List.append_assoc, List.cons_append, List.nil_append]
  rw [readBracketFrom_op fuel (hstop _) hop]

theorem Ends.of_member {c : Char} {member : Member}
    (h : Ends f (inner.push member) outer cs' rest m) (hskip : skip f.verbose cs = c :: visible)
    (hmember : readMember f (c :: visible) = .ok (member, cs'))
    (hop : ∀ d, visible.head? = some d → setOp? c d = none) (hopen : c ≠ '[') (hclose : c ≠ ']') :
    Ends f inner outer cs rest m := by
  obtain ⟨before, rfl, hstop⟩ := skip_stop hskip
  obtain ⟨taken, rfl, hcloses⟩ := h
  rw [List.append_cons] at hmember
  obtain ⟨own, hne, hvisible, hmore⟩ := readMember_append hmember (by simp)
  obtain ⟨c', own, rfl⟩ := List.exists_cons_of_ne_nil hne
  obtain ⟨rfl, rfl⟩ := List.cons.inj hvisible
  refine ⟨before ++ c :: own ++ taken, by simp, hcloses.round (by simp) fun more fuel => ?_⟩
  simp only [List.append_assoc, List.cons_append, List.nil_append] at hmore ⊢
  rw [readBracketFrom_member fuel (hstop _) ?_ hopen hclose, hmore]
  · rfl
  · intro d hhead
    apply hop d
    rw [← hhead]
    cases own <;> cases taken <;> rfl

end Ends

/-- A bracket that is read ends with a closing bracket, and what comes after it does not matter. -/
theorem readBracketFrom_ends {f : Flags} {fuel : Nat} {inner : OpenBracket}
    {outer : List OpenBracket} {cs rest : List Char} {m : Member}
    (h : readBracketFrom f fuel inner outer cs = .ok (m, rest)) : Ends f inner outer cs rest m := by
  -- round by round, where the character in sight says which kind of round it is
  induction fuel generalizing inner outer cs with
  | zero => cases h
  | succ fuel ih =>
    cases hskip : skip f.verbose cs with
    | nil =>
      rw [readBracketFrom, hskip] at h
      cases h
    | cons c visible =>
      by_cases hopen : c = '['
      · subst hopen
        cases hclass : asciiClassHere? visible with
        | some x =>
          obtain ⟨s, negated, cs'⟩ := x
          rw [readBracketFrom_class fuel hskip hclass] at h
          obtain ⟨set, hset, h⟩ := bind_eq_ok h
          exact (ih h).of_class hskip hclass hset
        | none =>
          rw [readBracketFrom_open fuel hskip hclass] at h
          exact (ih h).of_open hskip hclass
      by_cases hclose : c = ']'
      · subst hclose
        cases outer with
        | nil =>
          rw [readBracketFrom_last fuel hskip] at h
          cases hclosed : inner.close f <;> rw [hclosed] at h <;> cases h
          exact Ends.of_last hskip hclosed
        | cons b outer =>
          rw [readBracketFrom_close fuel b hskip] at h
          obtain ⟨closed, hclosed, h⟩ := bind_eq_ok h
          exact (ih h).of_close hskip hclosed
      by_cases hop : ∃ d op, visible.head? = some d ∧ setOp? c d = some op
      · obtain ⟨d, op, hhead, hop⟩ := hop
        obtain ⟨cs', rfl⟩ := List.head?_eq_some_iff.mp hhead
        rw [readBracketFrom_op fuel hskip hop] at h
        exact (ih h).of_op hskip hop
      · have hnone : ∀ d, visible.head? = some d → setOp? c d = none := by
          intro d hhead
          by_contra hsome
          obtain ⟨op, hop'⟩ := Option.ne_none_iff_exists'.mp hsome
          exact hop ⟨d, op, hhead, hop'⟩
        rw [readBracketFrom_member fuel hskip hnone hopen hclose] at h
        obtain ⟨x, hmember, h⟩ := bind_eq_ok h
        exact (ih h).of_member hskip hmember hnone hopen hclose

/-- A bracket is known from its own characters. -/
theorem firm_readBracket (f : Flags) : Firm (readBracket f) := by
  intro cs m rest h
  have heq : ∀ cs, readBracket f cs = readBracketFrom f (cs.length + 1)
      (openBracket f.verbose cs).1 [] (openBracket f.verbose cs).2 := fun _ => rfl
  rw [heq] at h
  obtain ⟨taken, hrest, hcloses⟩ := readBracketFrom_ends h
  have hopen : openBracket f.verbose cs =
      ((openBracket f.verbose cs).1, (taken ++ [']']) ++ rest) :=
    Prod.ext rfl (by simpa using hrest)
  obtain ⟨opening, hcs, hopening⟩ := (runs_openBracket f.verbose).stop_append (by simp) hopen
  refine ⟨opening ++ (taken ++ [']']), by simp, by simpa using hcs, fun more => ?_⟩
  rw [heq, List.append_assoc, hopening]
  simp only [List.append_assoc, List.cons_append, List.nil_append]
  apply hcloses
  simp only [List.length_append, List.length_cons]
  omega

end SecretScan.Regex.Reader
