import SecretScan.Proofs.Json.Reader
import SecretScan.Proofs.Toml.Grammar

/-!
# Reading plain values

The readers of blanks, strings, numbers and arrays give what the grammar says and stop where it says
(`Gap.within_eq`, `Quoted.readString_eq`, `Spells.readValue_eq`).
-/

namespace SecretScan.Toml

open Json (PowerSign Whole dropWhile_word signed takeWhile_word)

/-! ## 1. What a text takes -/

theorem Spaces.length_le {t rest : List Char} (h : Spaces t rest) : rest.length ≤ t.length := by
  induction h with
  | done t => exact le_rfl
  | more hc h ih => exact ih.trans (Nat.le_succ _)

theorem Comment.length_le {t rest : List Char} (h : Comment t rest) : rest.length ≤ t.length := by
  cases h with
  | absent => exact le_rfl
  | present h =>
    simp only [List.length_cons, List.length_append]
    omega

theorem LineBreak.length_le {t rest : List Char} (h : LineBreak t rest) :
    rest.length ≤ t.length := by
  cases h with
  | feed => exact Nat.le_succ _
  | returnFeed => exact Nat.le_add_right _ 2
  | finish => exact le_rfl

theorem LineEnd.length_le {t rest : List Char} (h : LineEnd t rest) : rest.length ≤ t.length := by
  obtain ⟨hspaces, hcomment, hbreak⟩ := h
  exact hbreak.length_le.trans (hcomment.length_le.trans hspaces.length_le)

theorem Gap.length_le {t rest : List Char} (h : Gap t rest) : rest.length ≤ t.length := by
  induction h with
  | spaces h => exact h.length_le
  | line hend h ih => exact ih.trans hend.length_le

theorem Spelled.length_lt {t rest : List Char} {c : Char} (h : Spelled t c rest) :
    rest.length < t.length := by
  cases h with
  | plain => exact Nat.lt_succ_self _
  | short | code =>
    simp only [List.length_cons, List.length_append]
    omega

theorem Quoted.length_lt {t s rest : List Char} (h : Quoted t s rest) : rest.length < t.length := by
  induction h with
  | close t => exact Nat.lt_succ_self _
  | char hc h ih => exact ih.trans hc.length_lt

theorem Integer.length_lt {t rest : List Char} {n : Int} (h : Integer t n rest) :
    rest.length < t.length := by
  obtain ⟨hsign, hwhole⟩ := h
  exact hwhole.toDigits.length_lt.trans_le hsign.length_le

theorem Strings.length_lt {t rest : List Char} {ss : List String} (h : Strings t ss rest) :
    rest.length < t.length := by
  induction h with
  | close h => exact h.length_le
  | last hgap h hclose =>
    -- gaps give nothing back, and each string takes a character
    have := hgap.length_le
    have := h.length_lt
    have := hclose.length_le
    simp only [List.length_cons] at *
    omega
  | more hgap h hcomma _ ih =>
    have := hgap.length_le
    have := h.length_lt
    have := hcomma.length_le
    simp only [List.length_cons] at *
    omega

theorem Spells.length_lt {t rest : List Char} {v : Plain} (h : Spells t v rest) :
    rest.length < t.length := by
  cases h with
  | trueName | falseName => simp only [List.length_cons]; omega
  | integer h => exact h.length_lt
  | string h => exact h.length_lt.trans (Nat.lt_succ_self _)
  | strings h => exact h.length_lt.trans (Nat.lt_succ_self _)

/-! ## 2. Blanks, comments and ends of lines -/

theorem ne_cons_of_head {p : Char → Bool} {t : List Char} (h : ∀ c ∈ t.head?, p c = true) {c : Char}
    (hc : p c = false) (rest : List Char) : t ≠ c :: rest := by
  rintro rfl
  rw [h c rfl] at hc
  cases hc

theorem Spaces.skipSpaces_eq {t rest : List Char} (h : Spaces t rest)
    (hrest : ∀ c ∈ rest.head?, isSpace c = false) : skipSpaces t = rest := by
  induction h with
  | done t =>
    show ([] ++ t).dropWhile isSpace = t
    exact dropWhile_word (List.forall_mem_nil _) hrest
  | more hc h ih => rw [← ih hrest, skipSpaces, List.dropWhile_cons, if_pos hc, skipSpaces]

theorem Spaces.skipSpaces_eq_cons {t rest : List Char} {c : Char} (h : Spaces t (c :: rest))
    (hc : isSpace c = false) : skipSpaces t = c :: rest :=
  h.skipSpaces_eq fun d hd => by cases hd; exact hc

theorem skipTrivia_space {c : Char} (hc : isSpace c = true) (t : List Char) :
    skipTrivia false (c :: t) = skipTrivia false t := by
  have hne : c ≠ '\n' ∧ c ≠ '\r' := by
    constructor <;> rintro rfl <;> cases hc
  rw [skipTrivia.eq_def]
  dsimp only
  rw [if_neg hne.1, if_neg hne.2, if_neg Bool.false_ne_true, if_pos hc]

theorem skipTrivia_plain {c : Char} (hc : isPlain c = true) (t : List Char) :
    skipTrivia true (c :: t) = skipTrivia true t := by
  have hne : c ≠ '\n' ∧ c ≠ '\r' := by
    constructor <;> rintro rfl <;> cases hc
  rw [skipTrivia.eq_def]
  dsimp only
  rw [if_neg hne.1, if_neg hne.2, if_pos rfl, if_pos hc]

theorem LineBreak.skipTrivia_eq {t rest : List Char} (h : LineBreak t rest) (comment : Bool) :
    skipTrivia comment t = skipTrivia false rest := by
  cases h with
  | feed => rw [skipTrivia.eq_def]; rfl
  | returnFeed => rw [skipTrivia.eq_def]; rfl
  | finish => cases comment <;> rfl

theorem Spaces.skipTrivia_eq {t rest : List Char} (h : Spaces t rest) :
    skipTrivia false t = skipTrivia false rest := by
  induction h with
  | done => rfl
  | more hc _ ih => exact (skipTrivia_space hc _).trans ih

theorem skipTrivia_comment {text : List Char} (h : ∀ c ∈ text, isPlain c = true) (t : List Char) :
    skipTrivia true (text ++ t) = skipTrivia true t := by
  induction text with
  | nil => rfl
  | cons c text ih =>
    obtain ⟨hc, htext⟩ := List.forall_mem_cons.mp h
    rw [List.cons_append, skipTrivia_plain hc, ih htext]

theorem Comment.skipTrivia_eq {t rest : List Char} (h : Comment t rest) :
    ∃ comment, skipTrivia false t = skipTrivia comment rest := by
  cases h with
  | absent => exact ⟨false, rfl⟩
  | present h =>
    refine ⟨true, ?_⟩
    rw [← skipTrivia_comment h rest, skipTrivia.eq_def]
    rfl

theorem LineEnd.skipTrivia_eq {t rest : List Char} (h : LineEnd t rest) :
    skipTrivia false t = skipTrivia false rest := by
  obtain ⟨hspaces, hcomment, hbreak⟩ := h
  obtain ⟨comment, hskip⟩ := hcomment.skipTrivia_eq
  rw [hspaces.skipTrivia_eq, hskip, hbreak.skipTrivia_eq comment]

theorem Gap.skipTrivia_eq {t rest : List Char} (h : Gap t rest) :
    skipTrivia false t = skipTrivia false rest := by
  induction h with
  | spaces h => exact h.skipTrivia_eq
  | line hend _ ih => exact hend.skipTrivia_eq.trans ih

/-- Whether a character is neither blank nor starts a comment nor ends a line. -/
def isSolid (c : Char) : Bool := !isSpace c && c != '#' && c != '\n' && c != '\r'

theorem LineBreak.head {t rest : List Char} (h : LineBreak t rest) :
    ∀ c ∈ t.head?, c = '\n' ∨ c = '\r' := by
  intro c hc
  cases h with
  | feed => exact .inl (Option.some.inj hc).symm
  | returnFeed => exact .inr (Option.some.inj hc).symm
  | finish => cases hc

theorem Spaces.head {t rest : List Char} (h : Spaces t rest) :
    ∀ c ∈ t.head?, isSpace c = true ∨ c ∈ rest.head? := by
  intro c hc
  cases h with
  | done => exact .inr hc
  | more hspace => exact .inl (Option.some.inj hc ▸ hspace)

theorem not_isSolid {c : Char} (h : isSpace c = true) : isSolid c = false := by
  rw [isSolid, h]
  rfl

theorem LineEnd.head {t rest : List Char} (h : LineEnd t rest) :
    ∀ c ∈ t.head?, isSolid c = false := by
  intro c hc
  obtain ⟨hspaces, hcomment, hbreak⟩ := h
  rcases hspaces.head c hc with hc | hc
  · exact not_isSolid hc
  · cases hcomment with
    | present => exact Option.some.inj hc ▸ rfl
    | absent => rcases hbreak.head c hc with rfl | rfl <;> rfl

theorem Gap.head {t rest : List Char} (h : Gap t rest) :
    ∀ c ∈ t.head?, isSolid c = false ∨ c ∈ rest.head? := by
  intro c hc
  cases h with
  | spaces h => exact (h.head c hc).imp_left not_isSolid
  | line hend => exact .inl (hend.head c hc)

theorem not_isSpace {c : Char} (h : isSolid c = true) : isSpace c = false := by
  simp only [isSolid, Bool.and_eq_true, Bool.not_eq_true'] at h
  exact h.1.1.1

theorem isSolid_of_isScalarChar {c : Char} (h : isScalarChar c = true) : isSolid c = true := by
  have hne (d : Char) (hd : isScalarChar d = false) : c ≠ d := by
    rintro rfl
    rw [h] at hd
    cases hd
  simp [isSolid, isSpace, hne ' ' rfl, hne '\t' rfl, hne '#' rfl, hne '\n' rfl, hne '\r' rfl]

theorem isSolid_of_isKeyChar {c : Char} (h : isKeyChar c = true) : isSolid c = true := by
  apply isSolid_of_isScalarChar
  simp only [isKeyChar, Bool.or_eq_true] at h
  simp only [isScalarChar, Bool.or_eq_true]
  tauto

theorem Gap.within_eq {t rest : List Char} {c : Char} (h : Gap t (c :: rest))
    (hc : isSolid c = true) (e : Error) : within e t = .ok (c :: rest) := by
  simp only [isSolid, Bool.and_eq_true, Bool.not_eq_true', bne_iff_ne] at hc
  obtain ⟨⟨⟨hspace, hcomment⟩, hfeed⟩, hreturn⟩ := hc
  have hskip : skipTrivia false t = some (c :: rest) := by
    rw [h.skipTrivia_eq, skipTrivia.eq_def]
    dsimp only
    rw [if_neg hfeed, if_neg hreturn, if_neg Bool.false_ne_true, hspace,
      if_neg Bool.false_ne_true, if_neg hcomment]
  rw [within, hskip]

theorem Gap.within_nil {t : List Char} (h : Gap t []) (e : Error) : within e t = .ok [] := by
  have hskip : skipTrivia false t = some [] := h.skipTrivia_eq
  rw [within, hskip]

theorem LineBreak.lineEnd_eq {t rest : List Char} (h : LineBreak t rest) :
    skipLineEnd.lineEnd t = .ok rest := by
  cases h <;> rfl

theorem Comment.afterBlanks_eq {t t' rest : List Char} (h : Comment t t')
    (hbreak : LineBreak t' rest) : skipLineEnd.afterBlanks t = .ok rest := by
  rw [← hbreak.lineEnd_eq]
  cases h with
  | absent => cases hbreak <;> rfl
  | @present text h =>
    show skipLineEnd.lineEnd ((text ++ t').dropWhile isPlain) = _
    rw [List.dropWhile_append_of_pos h]
    cases hbreak <;> rfl

theorem Comment.head {t t' rest : List Char} (h : Comment t t') (hbreak : LineBreak t' rest) :
    ∀ c ∈ t.head?, isSpace c = false := by
  intro c hc
  cases h with
  | absent => rcases hbreak.head c hc with rfl | rfl <;> rfl
  | present => exact Option.some.inj hc ▸ rfl

theorem LineEnd.skipLineEnd_eq {t rest : List Char} (h : LineEnd t rest) :
    skipLineEnd t = .ok rest := by
  obtain ⟨hspaces, hcomment, hbreak⟩ := h
  rw [skipLineEnd, hspaces.skipSpaces_eq (hcomment.head hbreak), hcomment.afterBlanks_eq hbreak]

/-! ## 3. Strings -/

theorem Hex.read_eq {ds : List Char} {n : Nat} (h : Hex ds n) :
    ∃ vs, ds.mapM (digitValue? 16) = some vs ∧ vs.length = ds.length ∧
      vs.foldl (fun value d => value * 16 + d) 0 = n := by
  -- the table of digits agrees with the reader of digits
  have hvalue : ∀ e ∈ hexDigits, digitValue? 16 e.1 = some e.2 := by decide
  induction h with
  | nil => exact ⟨[], rfl, rfl, rfl⟩
  | @snoc ds n v d h hd ih =>
    obtain ⟨vs, hvs, hlength, hfold⟩ := ih
    refine ⟨vs ++ [v], ?_, ?_, ?_⟩
    · rw [List.mapM_append, hvs, List.mapM_cons, hvalue _ hd]
      rfl
    · rw [List.length_append, List.length_append, hlength]
      rfl
    · rw [List.foldl_append, hfold]
      rfl

theorem readCodePoint_eq {ds : List Char} {c : Char} (h : Hex ds c.toNat) (t : List Char) :
    readCodePoint ds.length (ds ++ t) = .ok (c, t) := by
  obtain ⟨vs, hvs, hlength, hfold⟩ := h.read_eq
  have hvalid : c.toNat.isValidChar := c.valid
  rw [readCodePoint, List.take_left, hvs]
  dsimp only
  rw [hfold, if_pos ⟨hlength, hvalid⟩, Char.ofNat_toNat, List.drop_left]

theorem Spelled.readBasic_eq {t rest : List Char} {c : Char} (h : Spelled t c rest) (fuel : Nat) :
    readBasic (fuel + 1) t = do
      let (text, rest) ← readBasic fuel rest
      return (c :: text, rest) := by
  cases h with
  | plain hplain hquote hbackslash =>
    rw [readBasic, if_neg hquote, if_neg hbackslash, if_pos hplain]
  | @short e _ _ h =>
    -- the reader knows the same letters as the table
    have hescape : readEscape (e :: rest) = .ok (c, rest) := by
      simp only [shortEscapes, List.mem_cons, Prod.mk.injEq, List.not_mem_nil, or_false] at h
      rcases h with h | h | h | h | h | h | h | h <;> obtain ⟨rfl, rfl⟩ := h <;> rfl
    rw [readBasic, if_neg (by decide), if_pos rfl, hescape]
    rfl
  | @code letter _ ds _ h hcode =>
    have hescape : readEscape (letter :: (ds ++ rest)) = .ok (c, rest) := by
      rw [← readCodePoint_eq hcode rest]
      simp only [codeEscapes, List.mem_cons, Prod.mk.injEq, List.not_mem_nil, or_false] at h
      rcases h with h | h | h <;> obtain ⟨rfl, hlength⟩ := h <;> rw [hlength] <;> rfl
    rw [readBasic, if_neg (by decide), if_pos rfl, hescape]
    rfl

theorem Quoted.readBasic_eq {t s rest : List Char} (h : Quoted t s rest) {fuel : Nat}
    (hfuel : t.length ≤ fuel) : readBasic fuel t = .ok (s, rest) := by
  induction h generalizing fuel with
  | close t =>
    cases fuel with
    | zero => cases hfuel
    | succ fuel => rw [readBasic, if_pos rfl]
  | char hc h ih =>
    have hlt := hc.length_lt
    cases fuel with
    | zero => omega
    | succ fuel =>
      rw [hc.readBasic_eq, ih (show _ ≤ fuel by omega)]
      rfl

theorem Spelled.head {t rest : List Char} {c : Char} (h : Spelled t c rest) :
    ∀ first ∈ t.head?, first ≠ '"' := by
  intro first hfirst
  cases h with
  | plain _ hquote => exact Option.some.inj hfirst ▸ hquote
  | short | code => exact Option.some.inj hfirst ▸ (by decide)

/-- Two quotes are not taken for the opening of a string of several lines unless a third one
follows. -/
theorem Quoted.readString_eq {t s rest : List Char} (h : Quoted t s rest)
    (hrest : ∀ c ∈ rest.head?, c ≠ '"') : readString '"' t = .ok (s, rest) := by
  -- a string of one line is read after its first quote
  have hline : readString.oneLine '"' t = .ok (s, rest) := by
    rw [readString.oneLine, if_pos rfl]
    exact h.readBasic_eq (Nat.le_succ _)
  rw [← hline]
  unfold readString
  split
  next a b t' =>
    apply if_neg
    rintro ⟨rfl, rfl⟩
    -- a second quote ends an empty string, and what follows that is no quote
    cases h with
    | close => exact hrest '"' rfl rfl
    | char hc => exact hc.head '"' rfl rfl
  next => rfl

/-! ## 4. Integers and booleans -/

/-- What stands behind a value. -/
def Closes (t : List Char) : Prop :=
  ∀ c ∈ t.head?, isSolid c = false ∨ c = ',' ∨ c = ']'

theorem Closes.not_isScalarChar {t : List Char} (h : Closes t) :
    ∀ c ∈ t.head?, isScalarChar c = false := by
  intro c hc
  rcases h c hc with hc | rfl | rfl
  · simp only [isSolid, isSpace, Bool.and_eq_false_iff, Bool.not_eq_false', Bool.or_eq_true,
      beq_iff_eq, bne_eq_false_iff_eq] at hc
    rcases hc with (((rfl | rfl) | rfl) | rfl) | rfl <;> rfl
  · rfl
  · rfl

theorem readScalar_eq (word : List Char) {rest : List Char} (hword : ∀ c ∈ word, isScalarChar c = true)
    (hrest : Closes rest) (hdate : date? word = none) :
    readScalar (word ++ rest) = (scalar word).map fun v => (v, rest) := by
  unfold readScalar
  dsimp only
  rw [takeWhile_word hword hrest.not_isScalarChar, dropWhile_word hword hrest.not_isScalarChar,
    hdate]
  split <;> cases scalar word <;> rfl

theorem ungroup_eq {ds : List Char} (hne : ds ≠ []) (h : ∀ d ∈ ds, d.isDigit) :
    ungroup Char.isDigit ds = some ds := by
  fun_induction ungroup Char.isDigit ds with
  | case1 => exact absurd rfl hne
  | case2 c hc => rfl
  | case3 c hc => exact absurd (h c List.mem_cons_self) hc
  | case4 c rest => exact absurd (h '_' (by simp)) (by decide)
  | case5 c rest => exact absurd (h '_' (by simp)) (by decide)
  | case6 c rest hrest _ _ ih =>
    rw [ih (by rintro rfl; exact hrest rfl) fun d hd => h d (List.mem_cons_of_mem c hd)]
    rfl
  | case7 c rest _ _ hc => exact absurd (h c List.mem_cons_self) hc

theorem ofDigits_eq {ds : List Char} (h : ∀ d ∈ ds, d.isDigit) :
    ofDigits 10 ds = Nat.ofDigitChars 10 ds 0 := by
  apply List.foldl_ext
  intro n d hd
  have hdigit : d.isDigit = true := h d hd
  have hlt : d.toNat - '0'.toNat < 10 := by
    simp only [Char.isDigit, Bool.and_eq_true, decide_eq_true_eq] at hdigit
    have hle : d.toNat ≤ 57 := hdigit.2
    show d.toNat - 48 < 10
    omega
  have hvalue : digitValue? 10 d = some (d.toNat - '0'.toNat) := by
    simp only [digitValue?, if_pos hdigit, if_pos hlt]
  rw [hvalue, mul_comm]
  rfl

/-- A sign, if there is one, and digits, which are the number `n`. -/
structure Numeral (word : List Char) (n : Int) : Prop where
  digits : ∀ c ∈ word.tail, c.isDigit
  first : ∀ c ∈ word, c.isDigit ∨ c = '+' ∨ c = '-'
  value : integer? word = some (ranged n)

/-- No letter that announces another base can stand among signs and digits. -/
theorem integer?_eq {word ds : List Char} {negative : Bool}
    (hword : ∀ c ∈ word, c.isDigit ∨ c = '+' ∨ c = '-') (hsign : splitSign word = (negative, ds))
    (hdigits : decimalDigits? ds = some ds) (hvalue : ∀ d ∈ ds, d.isDigit) :
    integer? word = some (ranged (signed negative ds)) := by
  -- the words for other bases hold a letter
  have hletter : ∀ c : Char, ¬(c.isDigit ∨ c = '+' ∨ c = '-') → c ∉ word := fun c hc hmem =>
    hc (hword c hmem)
  unfold integer?
  dsimp only
  split
  · exact absurd (by simp) (hletter 'x' (by decide))
  · exact absurd (by simp) (hletter 'o' (by decide))
  · exact absurd (by simp) (hletter 'b' (by decide))
  · rw [hsign]
    dsimp only
    rw [hdigits, Option.map_some, ofDigits_eq hvalue]
    rfl

theorem decimalDigits?_eq {t ds rest : List Char} (h : Whole t ds rest) :
    decimalDigits? ds = some ds := by
  rw [decimalDigits?, ungroup_eq h.ne_nil h.digits]
  split
  next d ds' heq =>
    have hds : ds = '0' :: d :: ds' := Option.some.inj heq
    rw [hds] at h
    cases h.noZero rfl
  next => rfl

theorem Integer.numeral {t rest : List Char} {n : Int} (h : Integer t n rest) :
    ∃ word, t = word ++ rest ∧ Numeral word n := by
  obtain ⟨hsign, hwhole⟩ := h
  rename_i ds negative
  have hdigits := hwhole.digits
  have hvalue {word : List Char} (hword : ∀ c ∈ word, c.isDigit ∨ c = '+' ∨ c = '-')
      (hsign : splitSign word = (negative, ds)) :=
    integer?_eq hword hsign (decimalDigits?_eq hwhole) hdigits
  have hfirst : ∀ c ∈ ds, c.isDigit ∨ c = '+' ∨ c = '-' := fun c hc => .inl (hdigits c hc)
  have hsigned (c : Char) (hc : c = '+' ∨ c = '-') (hsign : splitSign (c :: ds) = (negative, ds)) :
      Numeral (c :: ds) (signed negative ds) := by
    have hword := List.forall_mem_cons.mpr ⟨.inr hc, hfirst⟩
    exact ⟨hdigits, hword, hvalue hword hsign⟩
  -- the sign belongs to the word, and digits alone begin with none
  cases hsign with
  | absent =>
    have hsplit : splitSign ds = (false, ds) := by
      rw [splitSign]
      · rintro ds' rfl
        exact absurd (hdigits '-' List.mem_cons_self) (by decide)
      · rintro ds' rfl
        exact absurd (hdigits '+' List.mem_cons_self) (by decide)
    exact ⟨ds, hwhole.text, fun c hc => hdigits c (List.mem_of_mem_tail hc), hfirst,
      hvalue hfirst hsplit⟩
  | plus => exact ⟨'+' :: ds, congrArg _ hwhole.text, hsigned '+' (.inl rfl) rfl⟩
  | minus => exact ⟨'-' :: ds, congrArg _ hwhole.text, hsigned '-' (.inr rfl) rfl⟩

theorem mem_drop_of_digits? {count n : Nat} {cs rest : List Char} {c : Char}
    (h : digits? count cs = some (n, c :: rest)) : c ∈ cs.drop count := by
  unfold digits? at h
  split_ifs at h
  have hdrop : cs.drop count = c :: rest := (Prod.mk.inj (Option.some.inj h)).2
  rw [hdrop]
  exact List.mem_cons_self

/-- Digits are no date, for which dashes would have to stand between them. -/
theorem Numeral.date?_eq {word : List Char} {n : Int} (h : Numeral word n) :
    date? word = none := by
  unfold date?
  split
  next year cs heq =>
    have hmem : '-' ∈ word.tail.drop 3 := by
      rw [List.drop_tail]
      exact mem_drop_of_digits? heq
    exact absurd (h.digits '-' (List.mem_of_mem_drop hmem)) (by decide)
  next => rfl

/-- Digits are no time, for which colons would have to stand between them. -/
theorem Numeral.time?_eq {word : List Char} {n : Int} (h : Numeral word n) :
    time? word = none := by
  have hhours : hoursAndMinutes? word = none := by
    unfold hoursAndMinutes?
    split
    next hour cs heq =>
      have hmem : ':' ∈ word.drop 2 := mem_drop_of_digits? heq
      exact absurd (h.first ':' (List.mem_of_mem_drop hmem)) (by decide)
    next => rfl
  rw [time?, hhours]

theorem Numeral.scalar_eq {word : List Char} {n : Int} (h : Numeral word n) (hfits : fits n = true) :
    scalar word = .ok (.integer n) := by
  -- names start with letters, and a sign or a digit is none
  have hletters : word ≠ "true".toList ∧ word ≠ "false".toList := by
    constructor <;> rintro rfl
    · exact absurd (h.first 't' (by decide)) (by decide)
    · exact absurd (h.first 'f' (by decide)) (by decide)
  have hdate : isDateTime word = false := by
    rw [isDateTime, h.date?_eq, h.time?_eq]
    rfl
  rw [scalar, if_neg hletters.1, if_neg hletters.2, hdate, h.value, ranged, if_pos hfits]
  rfl

theorem Numeral.isScalarChar {word : List Char} {n : Int} (h : Numeral word n) :
    ∀ c ∈ word, isScalarChar c = true := by
  intro c hc
  rcases h.first c hc with hdigit | rfl | rfl
  · simp [Toml.isScalarChar, Char.isAlphanum, hdigit]
  · rfl
  · rfl

theorem Integer.readScalar_eq {t rest : List Char} {n : Int} (h : Integer t n rest)
    (hfits : fits n = true) (hrest : Closes rest) : readScalar t = .ok (.integer n, rest) := by
  obtain ⟨word, rfl, hword⟩ := h.numeral
  rw [Toml.readScalar_eq word hword.isScalarChar hrest hword.date?_eq, hword.scalar_eq hfits]
  rfl

theorem Integer.head {t rest : List Char} {n : Int} (h : Integer t n rest) :
    ∀ c ∈ t.head?, isScalarChar c = true := by
  obtain ⟨word, rfl, hword⟩ := h.numeral
  cases word with
  | nil => cases hword.value
  | cons c word =>
    intro first hfirst
    exact hword.isScalarChar first (Option.some.inj hfirst ▸ List.mem_cons_self)

/-! ## 5. Values -/

theorem closes_cons {c : Char} (hc : isSolid c = false ∨ c = ',' ∨ c = ']') (t : List Char) :
    Closes (c :: t) := by
  intro first hfirst
  exact Option.some.inj hfirst ▸ hc

theorem Closes.not_quote {t : List Char} (h : Closes t) : ∀ c ∈ t.head?, c ≠ '"' := by
  rintro _ hc rfl
  exact absurd (h '"' hc) (by decide)

theorem LineEnd.closes {t rest : List Char} (h : LineEnd t rest) : Closes t :=
  fun c hc => .inl (h.head c hc)

theorem Gap.closes {t rest : List Char} (h : Gap t rest) (hrest : Closes rest) : Closes t := by
  intro c hc
  rcases h.head c hc with hc | hc
  · exact .inl hc
  · exact hrest c hc

theorem readValue_string {t s rest : List Char} (h : Quoted t s rest) (hrest : Closes rest)
    (nesting fuel : Nat) :
    readValue nesting (fuel + 1) ('"' :: t) = .ok (.string (String.ofList s), rest) := by
  rw [readValue, h.readString_eq hrest.not_quote]
  rfl

theorem readValue_scalar {t : List Char} (h : ∀ c ∈ t.head?, isScalarChar c = true)
    (nesting fuel : Nat) : readValue nesting (fuel + 1) t = readScalar t := by
  rw [readValue]
  · exact ne_cons_of_head h rfl
  · exact ne_cons_of_head h rfl
  · exact ne_cons_of_head h rfl
  · exact ne_cons_of_head h rfl

theorem Strings.readItems_eq {t rest : List Char} {ss : List String} (h : Strings t ss rest)
    (nesting : Nat) {fuel : Nat} (hfuel : t.length < fuel) :
    readItems nesting fuel t = .ok (ss.map .string, rest) := by
  induction h generalizing fuel with
  | close h =>
    obtain ⟨fuel, rfl⟩ := Nat.exists_eq_add_one.mpr (Nat.zero_lt_of_lt hfuel)
    rw [readItems, h.within_eq rfl]
    rfl
  | last hgap h hclose =>
    have hlength := hgap.length_le
    rw [List.length_cons] at hlength
    -- the quote before the string pays for reading the string
    obtain ⟨fuel, rfl⟩ : ∃ n, fuel = n + 2 := ⟨fuel - 2, by omega⟩
    have hvalue := readValue_string h (hclose.closes (closes_cons (.inr (.inr rfl)) _)) nesting fuel
    rw [readItems, hgap.within_eq rfl]
    simp only [bind, Except.bind]
    -- a quote is no bracket, so the array goes on
    split
    next heq => cases heq
    next =>
      simp only [hvalue, hclose.within_eq rfl]
      rfl
  | more hgap h hcomma hrest ih =>
    have hlength := hgap.length_le
    have hquoted := h.length_lt
    have hafter := hcomma.length_le
    rw [List.length_cons] at hlength hafter
    obtain ⟨fuel, rfl⟩ : ∃ n, fuel = n + 2 := ⟨fuel - 2, by omega⟩
    have hvalue := readValue_string h (hcomma.closes (closes_cons (.inr (.inl rfl)) _)) nesting fuel
    have hitems := ih (show _ < fuel + 1 by omega)
    rw [readItems, hgap.within_eq rfl]
    simp only [bind, Except.bind]
    split
    next heq => cases heq
    next =>
      simp only [hvalue, hcomma.within_eq rfl, hitems]
      rfl

theorem Spells.readValue_eq {t rest : List Char} {v : Plain} (h : Spells t v rest)
    (hrest : Closes rest) {fuel : Nat} (hfuel : t.length < fuel) :
    readValue maxNesting fuel t = .ok (v.value, rest) := by
  obtain ⟨fuel, rfl⟩ := Nat.exists_eq_add_one.mpr (Nat.zero_lt_of_lt hfuel)
  cases h with
  | trueName =>
    rw [readValue_scalar (by rintro c ⟨⟩; rfl)]
    exact readScalar_eq ['t', 'r', 'u', 'e'] (by simp [isScalarChar]) hrest (by decide)
  | falseName =>
    rw [readValue_scalar (by rintro c ⟨⟩; rfl)]
    exact readScalar_eq ['f', 'a', 'l', 's', 'e'] (by simp [isScalarChar]) hrest (by decide)
  | integer h hfits =>
    rw [readValue_scalar h.head]
    exact h.readScalar_eq hfits hrest
  | string h => exact readValue_string h hrest maxNesting fuel
  | strings h =>
    -- the items take one unit less of fuel, and one level less of nesting
    rw [List.length_cons] at hfuel
    rw [readValue, if_neg (by decide), h.readItems_eq (maxNesting - 1) (show _ < fuel by omega)]
    rfl

end SecretScan.Toml
