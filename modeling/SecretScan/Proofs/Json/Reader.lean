import SecretScan.Proofs.Json.Grammar

/-!
# Reading JSON

A reader for all of JSON.  What the grammar spells is read as what it means (`Spells.read_eq`), so a
document means one thing only (`Spells.document_unique`).
-/

namespace SecretScan.Json

/-! ## 1. The reader -/

def skipBlanks (t : List Char) : List Char := t.dropWhile isBlank

/-- The text after a character. -/
def expect (c : Char) : List Char → Option (List Char)
  | [] => none
  | first :: t => if first = c then some t else none

def readDigits (t : List Char) : Option (List Char × List Char) :=
  if t.takeWhile Char.isDigit = [] then none
  else some (t.takeWhile Char.isDigit, t.dropWhile Char.isDigit)

def readWhole (t : List Char) : Option (List Char × List Char) := do
  let (ds, rest) ← readDigits t
  if ds.head? = some '0' ∧ ds ≠ ['0'] then none else some (ds, rest)

def readSign (t : List Char) : Bool × List Char :=
  match expect '-' t with
  | some t => (true, t)
  | none => (false, t)

def readFraction (t : List Char) : Option (List Char × List Char) :=
  match expect '.' t with
  | some t => readDigits t
  | none => some ([], t)

def readPowerSign (t : List Char) : Bool × List Char :=
  match expect '+' t with
  | some t => (false, t)
  | none => readSign t

def readPower : List Char → Option (Int × List Char)
  | [] => some (0, [])
  | c :: t =>
    if c = 'e' ∨ c = 'E' then do
      let (ds, rest) ← readDigits (readPowerSign t).2
      return (signed (readPowerSign t).1 ds, rest)
    else some (0, c :: t)

def readNumber (t : List Char) : Option (Decimal × List Char) := do
  let (whole, t₂) ← readWhole (readSign t).2
  let (fraction, t₃) ← readFraction t₂
  let (power, rest) ← readPower t₃
  return (.ofParts (readSign t).1 whole fraction power, rest)

/-- The character that a unit stands for, together with a second unit if it takes two. -/
def readUnits (t : List Char) : Option (Char × List Char) := do
  let (n, t) ← readUnit t
  if isHigh n then
    let t ← expect '\\' t
    let t ← expect 'u' t
    let (low, rest) ← readUnit t
    if isLow low then return (Char.ofNat (pairValue n low), rest) else none
  else if n.isValidChar then return (Char.ofNat n, t) else none

/-- The character that stands after a backslash. -/
def readEscape : List Char → Option (Char × List Char)
  | [] => none
  | e :: t => if e = 'u' then readUnits t else (shortEscapes.lookup e).map fun c => (c, t)

def readChar : List Char → Option (Char × List Char)
  | [] => none
  | c :: t =>
    if c = '\\' then readEscape t else if 0x20 ≤ c.toNat then some (c, t) else none

/-- The characters up to a quote; there are at most `fuel` of them, with the quote. -/
def readQuoted : (fuel : Nat) → List Char → Option (List Char × List Char)
  | 0, _ => none
  | fuel + 1, t =>
    match expect '"' t with
    | some rest => some ([], rest)
    | none => do
      let (c, t) ← readChar t
      let (s, rest) ← readQuoted fuel t
      return (c :: s, rest)

def readKey (t : List Char) : Option (String × List Char) := do
  let t ← expect '"' (skipBlanks t)
  let (s, t) ← readQuoted t.length t
  let rest ← expect ':' (skipBlanks t)
  return (String.ofList s, rest)

section

variable {α : Type} (close : Char)

/-- What stands between commas, up to a closing character; there are at most `fuel` pieces. -/
def readList (readOne : List Char → Option (α × List Char)) :
    (fuel : Nat) → List Char → Option (List α × List Char)
  | 0, _ => none
  | fuel + 1, t => do
    let (a, t) ← readOne t
    match expect close t with
    | some rest => return ([a], rest)
    | none =>
      let t ← expect ',' t
      let (as_, rest) ← readList readOne fuel t
      return (a :: as_, rest)

/-- A list that may be empty. -/
def readBrackets (readOne : List Char → Option (α × List Char)) (t : List Char) :
    Option (List α × List Char) :=
  match expect close (skipBlanks t) with
  | some rest => some ([], rest)
  | none => readList close readOne t.length t

end

def readElement (readOne : List Char → Option (Data × List Char)) (t : List Char) :
    Option (Data × List Char) := do
  let (d, t) ← readOne (skipBlanks t)
  return (d, skipBlanks t)

def readField (readOne : List Char → Option (Data × List Char)) (t : List Char) :
    Option ((String × Data) × List Char) := do
  let (key, t) ← readKey t
  let (d, rest) ← readElement readOne t
  return ((key, d), rest)

def readLiteral : List Char → Option (Data × List Char)
  | 'n' :: 'u' :: 'l' :: 'l' :: t => some (.null, t)
  | 't' :: 'r' :: 'u' :: 'e' :: t => some (.boolean true, t)
  | 'f' :: 'a' :: 'l' :: 's' :: 'e' :: t => some (.boolean false, t)
  | _ => none

/-- A value that consists of at most `depth` values inside each other. -/
def readValue : (depth : Nat) → List Char → Option (Data × List Char)
  | 0, _ => none
  | _ + 1, [] => none
  | depth + 1, c :: t =>
    if c = '"' then (readQuoted t.length t).map fun (s, rest) => (.string (String.ofList s), rest)
    else if c = '[' then
      (readBrackets ']' (readElement (readValue depth)) t).map fun (ds, rest) => (.array ds, rest)
    else if c = '\x7b' then
      (readBrackets '\x7d' (readField (readValue depth)) t).map fun (fs, rest) =>
        (.object fs, rest)
    else if c = '-' ∨ c.isDigit then
      (readNumber (c :: t)).map fun (n, rest) => (.number n, rest)
    else readLiteral (c :: t)

/-- The value of a document. -/
def read (t : List Char) : Option Data :=
  match readElement (readValue t.length) t with
  | some (d, []) => some d
  | _ => none

/-! ## 2. What a text takes -/

theorem Digits.length_lt {t ds rest : List Char} (h : Digits t ds rest) :
    rest.length < t.length := by
  have hpos : 0 < ds.length := List.length_pos_iff.mpr h.ne_nil
  rw [h.text, List.length_append]
  omega

theorem Sign.length_le {t rest : List Char} {negative : Bool} (h : Sign t negative rest) :
    rest.length ≤ t.length := by
  cases h with
  | absent => exact le_rfl
  | minus => exact Nat.le_succ _

theorem Fraction.length_le {t ds rest : List Char} (h : Fraction t ds rest) :
    rest.length ≤ t.length := by
  cases h with
  | absent => exact le_rfl
  | present h => exact h.length_lt.le.trans (Nat.le_succ _)

theorem PowerSign.length_le {t rest : List Char} {negative : Bool} (h : PowerSign t negative rest) :
    rest.length ≤ t.length := by
  cases h with
  | absent => exact le_rfl
  | plus => exact Nat.le_succ _
  | minus => exact Nat.le_succ _

theorem Power.length_le {t rest : List Char} {power : Int} (h : Power t power rest) :
    rest.length ≤ t.length := by
  cases h with
  | absent => exact le_rfl
  | present hc hsign h =>
    have := hsign.length_le
    have := h.length_lt
    rw [List.length_cons]
    omega

theorem Number.length_lt {t rest : List Char} {n : Decimal} (h : Number t n rest) :
    rest.length < t.length := by
  obtain ⟨hsign, hwhole, hfraction, hpower⟩ := h
  have := hsign.length_le
  have := hwhole.length_lt
  have := hfraction.length_le
  have := hpower.length_le
  omega

theorem length_lt_of_readUnit {t rest : List Char} {n : Nat} (h : readUnit t = some (n, rest)) :
    rest.length < t.length := by
  unfold readUnit at h
  split at h
  next a b c d tail =>
    simp only [Option.bind_eq_bind, Option.bind_eq_some_iff, Option.pure_def, Option.some.injEq,
      Prod.mk.injEq] at h
    obtain ⟨_, _, _, _, _, _, _, _, _, rfl⟩ := h
    simp only [List.length_cons]
    omega
  next => cases h

theorem Spelled.length_lt {t rest : List Char} {c : Char} (h : Spelled t c rest) :
    rest.length < t.length := by
  cases h with
  | plain => exact Nat.lt_succ_self _
  | short => simp only [List.length_cons]; omega
  | unit h =>
    have := length_lt_of_readUnit h
    simp only [List.length_cons]
    omega
  | pair hhigh hlow =>
    have := length_lt_of_readUnit hhigh
    have := length_lt_of_readUnit hlow
    simp only [List.length_cons] at *
    omega

theorem Quoted.length_lt {t s rest : List Char} (h : Quoted t s rest) : rest.length < t.length := by
  induction h with
  | close t => exact Nat.lt_succ_self _
  | char hc h ih => exact ih.trans hc.length_lt

theorem Key.length_lt {t rest : List Char} {key : String} (h : Key t key rest) :
    rest.length < t.length := by
  obtain ⟨hopen, h, hcolon⟩ := h
  have := hopen.length_le
  have := h.length_lt
  have := hcolon.length_le
  simp only [List.length_cons] at *
  omega

theorem Spells.length_lt {t rest : List Char} {form : Form} (h : Spells t form rest) :
    rest.length < t.length := by
  induction h with
  | nullName | trueName | falseName => simp only [List.length_cons]; omega
  | number h => exact h.length_lt
  | string h => exact h.length_lt.trans (Nat.lt_succ_self _)
  | emptyArray h | emptyObject h =>
    have := h.length_le
    simp only [List.length_cons] at *
    omega
  | array h ih | object h ih => exact ih.trans (Nat.lt_succ_self _)
  | element hbefore h hafter ih =>
    -- blanks give nothing back, and the value between them takes a character
    have := hbefore.length_le
    have := hafter.length_le
    omega
  | lastItem h ih =>
    simp only [List.length_cons] at ih
    omega
  | item h hrest ih ihrest =>
    simp only [List.length_cons] at ih
    omega
  | lastField hkey h ih =>
    have := hkey.length_lt
    simp only [List.length_cons] at ih
    omega
  | field hkey h hrest ih ihrest =>
    have := hkey.length_lt
    simp only [List.length_cons] at ih
    omega

/-! ## 3. Numbers -/

section

variable {p : Char → Bool} {word rest : List Char}

theorem takeWhile_word (hword : ∀ c ∈ word, p c = true) (hrest : ∀ c ∈ rest.head?, p c = false) :
    (word ++ rest).takeWhile p = word := by
  rw [List.takeWhile_append_of_pos hword]
  cases rest with
  | nil => exact List.append_nil word
  | cons c rest => rw [List.takeWhile_cons, hrest c rfl]; exact List.append_nil word

theorem dropWhile_word (hword : ∀ c ∈ word, p c = true) (hrest : ∀ c ∈ rest.head?, p c = false) :
    (word ++ rest).dropWhile p = rest := by
  rw [List.dropWhile_append_of_pos hword]
  cases rest with
  | nil => rfl
  | cons c rest => rw [List.dropWhile_cons, hrest c rfl]; rfl

end

@[simp] theorem expect_cons_self (c : Char) (t : List Char) : expect c (c :: t) = some t :=
  if_pos rfl

theorem expect_eq_none {c : Char} {t : List Char} (h : ∀ first ∈ t.head?, first ≠ c) :
    expect c t = none := by
  cases t with
  | nil => rfl
  | cons first t => exact if_neg (h first rfl)

theorem ne_of_isDigit {c d : Char} (hc : c.isDigit) (hd : d.isDigit = false) : c ≠ d := by
  rintro rfl
  rw [hc] at hd
  cases hd

theorem Digits.head {t ds rest : List Char} (h : Digits t ds rest) : ∀ c ∈ t.head?, c.isDigit := by
  obtain ⟨d, ds', rfl⟩ := List.exists_cons_of_ne_nil h.ne_nil
  rw [h.text]
  intro c hc
  cases hc
  exact h.digits d List.mem_cons_self

theorem Digits.read_eq {t ds rest : List Char} (h : Digits t ds rest)
    (hrest : ∀ c ∈ rest.head?, c.isDigit = false) : readDigits t = some (ds, rest) := by
  rw [readDigits, h.text, takeWhile_word h.digits hrest, if_neg h.ne_nil,
    dropWhile_word h.digits hrest]

/-- No number goes on with this text. -/
def EndsNumber (t : List Char) : Prop :=
  ∀ c ∈ t.head?, c.isDigit = false ∧ c ≠ '.' ∧ c ≠ 'e' ∧ c ≠ 'E'

-- What stands before the rest of a number tells the readers of its parts where to stop.
theorem Power.head {t rest : List Char} {power : Int} (h : Power t power rest)
    (hrest : EndsNumber rest) : ∀ c ∈ t.head?, c.isDigit = false ∧ c ≠ '.' := by
  intro c hc
  cases h with
  | absent => exact ⟨(hrest c hc).1, (hrest c hc).2.1⟩
  | present he =>
    cases hc
    rcases he with rfl | rfl <;> decide

theorem Fraction.head {t ds rest : List Char} (h : Fraction t ds rest)
    (hrest : ∀ c ∈ rest.head?, c.isDigit = false) : ∀ c ∈ t.head?, c.isDigit = false := by
  cases h with
  | absent => exact hrest
  | present h =>
    intro c hc
    cases hc
    rfl

theorem Whole.read_eq {t ds rest : List Char} (h : Whole t ds rest)
    (hrest : ∀ c ∈ rest.head?, c.isDigit = false) : readWhole t = some (ds, rest) := by
  have hzero : ¬(ds.head? = some '0' ∧ ds ≠ ['0']) := fun hds => hds.2 (h.noZero hds.1)
  simp [readWhole, h.toDigits.read_eq hrest, hzero]

theorem Sign.read_eq {t rest : List Char} {negative : Bool} (h : Sign t negative rest)
    (hrest : ∀ c ∈ rest.head?, c.isDigit) : readSign t = (negative, rest) := by
  cases h with
  | absent =>
    have hminus : expect '-' t = none :=
      expect_eq_none fun c hc => ne_of_isDigit (hrest c hc) rfl
    rw [readSign, hminus]
  | minus => rfl

theorem PowerSign.read_eq {t rest : List Char} {negative : Bool} (h : PowerSign t negative rest)
    (hrest : ∀ c ∈ rest.head?, c.isDigit) : readPowerSign t = (negative, rest) := by
  cases h with
  | absent =>
    have hplus : expect '+' t = none :=
      expect_eq_none fun c hc => ne_of_isDigit (hrest c hc) rfl
    rw [readPowerSign, hplus]
    exact (Sign.absent t).read_eq hrest
  | plus => rfl
  | minus => rfl

theorem Fraction.read_eq {t ds rest : List Char} (h : Fraction t ds rest)
    (hrest : ∀ c ∈ rest.head?, c.isDigit = false ∧ c ≠ '.') :
    readFraction t = some (ds, rest) := by
  cases h with
  | absent =>
    have hpoint : expect '.' t = none := expect_eq_none fun c hc => (hrest c hc).2
    rw [readFraction, hpoint]
  | present h => exact h.read_eq fun c hc => (hrest c hc).1

theorem Power.read_eq {t rest : List Char} {power : Int} (h : Power t power rest)
    (hrest : EndsNumber rest) : readPower t = some (power, rest) := by
  cases h with
  | absent =>
    cases t with
    | nil => rfl
    | cons c t =>
      have hc := hrest c rfl
      exact if_neg fun he => he.elim hc.2.2.1 hc.2.2.2
  | present he hsign h =>
    have hdigits := h.read_eq fun c hc => (hrest c hc).1
    simp [readPower, he, hsign.read_eq h.head, hdigits]

theorem Number.read_eq {t rest : List Char} {n : Decimal} (h : Number t n rest)
    (hrest : EndsNumber rest) : readNumber t = some (n, rest) := by
  obtain ⟨hsign, hwhole, hfraction, hpower⟩ := h
  have hpoint := hpower.head hrest
  have hdigit := hfraction.head fun c hc => (hpoint c hc).1
  simp [readNumber, hsign.read_eq hwhole.toDigits.head, hwhole.read_eq hdigit,
    hfraction.read_eq hpoint, hpower.read_eq hrest]

/-! ## 4. Strings -/

theorem isHigh_of_isValidChar {n : Nat} (h : n.isValidChar) : isHigh n = false := by
  rw [Bool.eq_false_iff]
  simp only [isHigh, ne_eq, Bool.and_eq_true, decide_eq_true_eq]
  rcases h with h | h <;> omega

theorem Spelled.read_eq {t rest : List Char} {c : Char} (h : Spelled t c rest) :
    readChar t = some (c, rest) := by
  cases h with
  | plain hquote hbackslash hcontrol => rw [readChar, if_neg hbackslash, if_pos hcontrol]
  | short h =>
    -- the table has one entry for each character
    have hlookup : ∀ e ∈ shortEscapes, e.1 ≠ 'u' ∧ shortEscapes.lookup e.1 = some e.2 := by decide
    obtain ⟨hu, heq⟩ := hlookup _ h
    rw [readChar, if_pos rfl, readEscape, if_neg hu, heq]
    rfl
  | unit h =>
    -- the code of a character is never taken for the first half of a pair
    have hvalid : c.toNat.isValidChar := c.valid
    simp [readChar, readEscape, readUnits, h, isHigh_of_isValidChar hvalid, hvalid]
  | pair hhigh hlow hpair hc =>
    simp [readChar, readEscape, readUnits, hhigh, hlow, hpair.1, hpair.2, ← hc]

theorem Spelled.head {t rest : List Char} {c : Char} (h : Spelled t c rest) :
    ∀ first ∈ t.head?, first ≠ '"' := by
  intro first hfirst
  cases h with
  | plain hquote =>
    cases hfirst
    exact hquote
  | _ =>
    cases hfirst
    decide

theorem Quoted.read_eq {t s rest : List Char} (h : Quoted t s rest) {fuel : Nat}
    (hfuel : t.length ≤ fuel) : readQuoted fuel t = some (s, rest) := by
  induction h generalizing fuel with
  | close t =>
    cases fuel with
    | zero => cases hfuel
    | succ fuel => rw [readQuoted, expect_cons_self]
  | char hc h ih =>
    have hlt := hc.length_lt
    cases fuel with
    | zero => omega
    | succ fuel =>
      rw [readQuoted, expect_eq_none hc.head]
      simp [hc.read_eq, ih (show _ ≤ fuel by omega)]

theorem Blanks.skip_eq {t rest : List Char} (h : Blanks t rest)
    (hrest : ∀ c ∈ rest.head?, isBlank c = false) : skipBlanks t = rest := by
  induction h with
  | done t =>
    show ([] ++ t).dropWhile isBlank = t
    exact dropWhile_word (List.forall_mem_nil _) hrest
  | more hc h ih => rw [← ih hrest, skipBlanks, List.dropWhile_cons, if_pos hc, skipBlanks]

theorem Blanks.skip_eq_cons {t rest : List Char} {c : Char} (h : Blanks t (c :: rest))
    (hc : isBlank c = false) : skipBlanks t = c :: rest :=
  h.skip_eq fun first hfirst => by cases hfirst; exact hc

theorem Key.read_eq {t rest : List Char} {key : String} (h : Key t key rest) :
    readKey t = some (key, rest) := by
  obtain ⟨hopen, h, hcolon⟩ := h
  simp [readKey, hopen.skip_eq_cons (by decide), h.read_eq le_rfl, hcolon.skip_eq_cons (by decide)]

/-! ## 5. Values -/

theorem Number.head {t rest : List Char} {n : Decimal} (h : Number t n rest) :
    ∃ c t', t = c :: t' ∧ (c = '-' ∨ c.isDigit) := by
  obtain ⟨hsign, hwhole, -, -⟩ := h
  cases hsign with
  | absent =>
    obtain ⟨c, t', rfl⟩ := List.exists_cons_of_ne_nil (List.ne_nil_of_length_pos
      (Nat.zero_lt_of_lt hwhole.toDigits.length_lt))
    exact ⟨c, t', rfl, .inr (hwhole.toDigits.head c rfl)⟩
  | minus => exact ⟨_, _, rfl, .inl rfl⟩

/-- A value starts neither with a blank nor with a closing bracket. -/
theorem Spells.head {t rest : List Char} {d : Data} (h : Spells t (.value d) rest) :
    ∀ c ∈ t.head?, isBlank c = false ∧ c ≠ ']' := by
  intro c hc
  cases h with
  | number h =>
    -- only a number can begin with more than one character
    obtain ⟨first, t', rfl, hfirst⟩ := h.head
    cases hc
    rcases hfirst with rfl | hdigit
    · decide
    · refine ⟨?_, ne_of_isDigit hdigit rfl⟩
      have hne : ∀ b : Char, b.isDigit = false → c ≠ b := fun b hb => ne_of_isDigit hdigit hb
      simp [isBlank, hne ' ' rfl, hne '\t' rfl, hne '\n' rfl, hne '\r' rfl]
  | _ =>
    cases hc
    decide

/-- What stands after the items of an array, the fields of an object or a document. -/
def Closes (t : List Char) : Prop := ∀ c ∈ t.head?, c = ',' ∨ c = ']' ∨ c = '\x7d'

theorem Closes.skip_eq {t rest : List Char} (hrest : Closes rest) (h : Blanks t rest) :
    skipBlanks t = rest :=
  h.skip_eq fun c hc => by rcases hrest c hc with rfl | rfl | rfl <;> decide

theorem Closes.endsNumber {t rest : List Char} (hrest : Closes rest) (h : Blanks t rest) :
    EndsNumber t := by
  cases h with
  | done => exact fun c hc => by rcases hrest c hc with rfl | rfl | rfl <;> decide
  | more hblank h =>
    intro c hc
    cases hc
    simp only [isBlank, Bool.or_eq_true, decide_eq_true_eq] at hblank
    rcases hblank with ((rfl | rfl) | rfl) | rfl <;> decide

/-- A text is read as its form says.  Any depth and any fuel will do that is not less than the length
of the text. -/
def Form.ReadFrom (t rest : List Char) : Form → Prop
  | .value d => EndsNumber rest → ∀ depth, t.length ≤ depth → readValue depth t = some (d, rest)
  | .element d =>
    Closes rest → ∀ depth, t.length ≤ depth → readElement (readValue depth) t = some (d, rest)
  | .items ds => ∀ depth fuel, t.length ≤ depth → t.length ≤ fuel →
    readList ']' (readElement (readValue depth)) fuel t = some (ds, rest)
  | .fields fs => ∀ depth fuel, t.length ≤ depth → t.length ≤ fuel →
    readList '\x7d' (readField (readValue depth)) fuel t = some (fs, rest)

theorem Spells.element_head {t rest : List Char} {d : Data} (h : Spells t (.element d) rest) :
    expect ']' (skipBlanks t) = none := by
  cases h with
  | element hbefore h hafter =>
    rw [hbefore.skip_eq fun c hc => (h.head c hc).1]
    exact expect_eq_none fun c hc => (h.head c hc).2

theorem Spells.items_head {t rest : List Char} {ds : List Data} (h : Spells t (.items ds) rest) :
    expect ']' (skipBlanks t) = none := by
  cases h with
  | lastItem h => exact h.element_head
  | item h => exact h.element_head

theorem Key.head {t rest : List Char} {key : String} (h : Key t key rest) :
    expect '\x7d' (skipBlanks t) = none := by
  obtain ⟨hopen, -, -⟩ := h
  rw [hopen.skip_eq_cons (by decide)]
  rfl

theorem Spells.fields_head {t rest : List Char} {fs : List (String × Data)}
    (h : Spells t (.fields fs) rest) : expect '\x7d' (skipBlanks t) = none := by
  cases h with
  | lastField hkey => exact hkey.head
  | field hkey => exact hkey.head

theorem closes_cons {c : Char} (hc : c = ',' ∨ c = ']' ∨ c = '\x7d') (t : List Char) :
    Closes (c :: t) := fun first hfirst => by cases hfirst; exact hc

-- The induction is on how the text is spelled.  A value within another is shorter than the text by a
-- bracket at least, which pays for the depth; each piece of a list pays for one unit of its fuel.
theorem Spells.readFrom {t rest : List Char} {form : Form} (h : Spells t form rest) :
    form.ReadFrom t rest := by
  induction h with
  | nullName t | trueName t | falseName t =>
    rintro - (_ | depth) hdepth
    · cases hdepth
    · rfl
  | @number t rest n h =>
    rintro hrest (_ | depth) hdepth
    · have := h.length_lt
      omega
    · obtain ⟨c, t', rfl, hc⟩ := h.head
      -- a number starts like nothing else
      have hne : c ≠ '"' ∧ c ≠ '[' ∧ c ≠ '\x7b' := by
        rcases hc with rfl | hdigit
        · decide
        · exact ⟨ne_of_isDigit hdigit rfl, ne_of_isDigit hdigit rfl, ne_of_isDigit hdigit rfl⟩
      rw [readValue, if_neg hne.1, if_neg hne.2.1, if_neg hne.2.2, if_pos hc, h.read_eq hrest]
      rfl
  | string h =>
    rintro - (_ | depth) hdepth
    · cases hdepth
    · rw [readValue, if_pos rfl, h.read_eq le_rfl]
      rfl
  | emptyArray h =>
    rintro - (_ | depth) hdepth
    · cases hdepth
    · simp [readValue, readBrackets, h.skip_eq_cons (by decide)]
  | array h ih =>
    rintro - (_ | depth) hdepth
    · cases hdepth
    · -- the array is not taken for an empty one
      have hitems := ih depth _ (Nat.le_of_succ_le_succ hdepth) le_rfl
      simp [readValue, readBrackets, h.items_head, hitems]
  | emptyObject h =>
    rintro - (_ | depth) hdepth
    · cases hdepth
    · simp [readValue, readBrackets, h.skip_eq_cons (by decide)]
  | object h ih =>
    rintro - (_ | depth) hdepth
    · cases hdepth
    · have hfields := ih depth _ (Nat.le_of_succ_le_succ hdepth) le_rfl
      simp [readValue, readBrackets, h.fields_head, hfields]
  | element hbefore h hafter ih =>
    intro hrest depth hdepth
    have hvalue := ih (hrest.endsNumber hafter) depth (hbefore.length_le.trans hdepth)
    have hskip := hbefore.skip_eq fun c hc => (h.head c hc).1
    simp [readElement, hskip, hvalue, hrest.skip_eq hafter]
  | lastItem h ih =>
    rintro depth (_ | fuel) hdepth hfuel
    · have := h.length_lt
      omega
    · simp [readList, ih (closes_cons (by decide) _) depth hdepth]
  | item h hrest ih ihrest =>
    have hlt := h.length_lt
    rw [List.length_cons] at hlt
    rintro depth (_ | fuel) hdepth hfuel
    · omega
    · have hitem := ih (closes_cons (by decide) _) depth hdepth
      have hitems := ihrest depth fuel (by omega) (by omega)
      simp [readList, hitem, hitems, expect]
  | lastField hkey h ih =>
    have hlt := hkey.length_lt
    rintro depth (_ | fuel) hdepth hfuel
    · omega
    · have hvalue := ih (closes_cons (by decide) _) depth (by omega)
      simp [readList, readField, hkey.read_eq, hvalue]
  | field hkey h hrest ih ihrest =>
    have hlt := hkey.length_lt
    have hlt' := h.length_lt
    rw [List.length_cons] at hlt'
    rintro depth (_ | fuel) hdepth hfuel
    · omega
    · have hvalue := ih (closes_cons (by decide) _) depth (by omega)
      have hfields := ihrest depth fuel (by omega) (by omega)
      simp [readList, readField, hkey.read_eq, hvalue, hfields, expect]

/-- A document is read as what it means. -/
theorem Spells.read_eq {t : List Char} {d : Data} (h : Spells t (.element d) []) :
    read t = some d := by
  have hread : readElement (readValue t.length) t = some (d, []) :=
    h.readFrom (fun _ hc => nomatch hc) t.length le_rfl
  rw [read, hread]

theorem Spells.document_unique {t : List Char} {d d' : Data} (h : Spells t (.element d) [])
    (h' : Spells t (.element d') []) : d = d' := by
  rw [← Option.some_inj, ← h.read_eq, h'.read_eq]

end SecretScan.Json
