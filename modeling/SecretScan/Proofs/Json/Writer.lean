import SecretScan.Json.Writer
import SecretScan.Proofs.Json.Reader

/-!
# What is written is JSON

The text of a value spells what the value means (`isText_text`), also on a line of its own
(`spells_text_line`), and so the reader gives that back.
-/

namespace SecretScan.Json

/-! ## 1. What a value means -/

mutual

def Value.data : Value → Data
  | .number n => .number ⟨n, 0⟩
  | .string s => .string s
  | .array items => .array (itemsData items)
  | .object fields => .object (fieldsData fields)

def itemsData : List Value → List Data
  | [] => []
  | v :: rest => v.data :: itemsData rest

def fieldsData : List (String × Value) → List (String × Data)
  | [] => []
  | (key, v) :: rest => (key, v.data) :: fieldsData rest

end

theorem itemsData_eq_map (items : List Value) : itemsData items = items.map Value.data := by
  induction items with
  | nil => rfl
  | cons v items ih => rw [itemsData, ih, List.map_cons]

/-! ## 2. Numbers and strings -/

/-- No number but zero starts with a zero. -/
theorem toDigits_of_head_zero {n : Nat} (h : (Nat.toDigits 10 n).head? = some '0') :
    Nat.toDigits 10 n = ['0'] := by
  induction n using Nat.strong_induction_on with
  | _ n ih =>
    rw [Nat.toDigits_eq_if (by decide)] at h ⊢
    by_cases hlt : n < 10
    · rw [if_pos hlt] at h ⊢
      rw [Option.some.inj h]
    · rw [if_neg hlt, List.head?_append_of_ne_nil _ Nat.toDigits_ne_nil] at h
      -- the digits before the last one would be those of zero
      have hzero : n / 10 = 0 := by
        rw [← Nat.ofDigitChars_ten_toDigits (n := n / 10), ih (n / 10) (by omega) h]
        rfl
      omega

theorem whole_toDigits (n : Nat) (rest : List Char) :
    Whole (Nat.toDigits 10 n ++ rest) (Nat.toDigits 10 n) rest where
  text := rfl
  ne_nil := Nat.toDigits_ne_nil
  digits := fun _ hd => Nat.isDigit_of_mem_toDigits (by decide) (by decide) hd
  noZero := toDigits_of_head_zero

theorem number_repr (n : Nat) (rest : List Char) :
    Number ((toString n).toList ++ rest) ⟨n, 0⟩ rest := by
  have hdigits : (toString n).toList = Nat.toDigits 10 n := Nat.toList_repr
  have hvalue : Decimal.ofParts false (Nat.toDigits 10 n) [] 0 = ⟨n, 0⟩ := by
    simp [Decimal.ofParts, signed]
  rw [hdigits, ← hvalue]
  exact .mk (.absent _) (whole_toDigits n rest) (.absent _) (.absent _)

theorem hexValue?_hexDigit : ∀ n < 16, hexValue? (hexDigit n) = some n := by decide

/-- A control character is spelled by its code. -/
theorem readUnit_of_control {c : Char} (h : c.toNat < 0x20) (rest : List Char) :
    readUnit ('0' :: '0' :: hexDigit (c.toNat / 16) :: hexDigit (c.toNat % 16) :: rest) =
      some (c.toNat, rest) := by
  have hzero : hexValue? '0' = some 0 := by decide
  have hhigh := hexValue?_hexDigit (c.toNat / 16) (by omega)
  have hlow := hexValue?_hexDigit (c.toNat % 16) (by omega)
  have hvalue : ((0 * 16 + 0) * 16 + c.toNat / 16) * 16 + c.toNat % 16 = c.toNat := by omega
  simp only [readUnit, hzero, hhigh, hlow, Option.bind_eq_bind, Option.bind_some, Option.pure_def,
    hvalue]

theorem spelled_escapeChar (c : Char) (rest : List Char) :
    Spelled (escapeChar c ++ rest) c rest := by
  by_cases hshort : (∃ e, (e, c) ∈ shortEscapes) ∧ c ≠ '/'
  · have htable : ∀ p ∈ shortEscapes, p.2 ≠ '/' → escapeChar p.2 = ['\\', p.1] := by decide
    obtain ⟨⟨e, he⟩, hc⟩ := hshort
    rw [htable _ he hc]
    exact .short he
  · -- what has no short escape is spelled by its code or by itself
    have hne : ∀ p ∈ shortEscapes, p.2 ≠ '/' → c ≠ p.2 := by
      rintro p hp hslash rfl
      exact hshort ⟨⟨p.1, hp⟩, hslash⟩
    have hescape : escapeChar c = if c.toNat < 0x20 then
        ['\\', 'u', '0', '0', hexDigit (c.toNat / 16), hexDigit (c.toNat % 16)] else [c] := by
      simp [shortEscapes] at hne
      simp [escapeChar, hne]
    rw [hescape]
    split_ifs with hcontrol
    · exact .unit (readUnit_of_control hcontrol rest)
    · have hquote : c ≠ '"' := hne ('"', '"') (by decide) (by decide)
      have hbackslash : c ≠ '\\' := hne ('\\', '\\') (by decide) (by decide)
      exact .plain hquote hbackslash (not_lt.mp hcontrol)

theorem quoted_escaped (s rest : List Char) :
    Quoted (s.flatMap escapeChar ++ '"' :: rest) s rest := by
  induction s with
  | nil => exact .close rest
  | cons c s ih =>
    rw [List.flatMap_cons, List.append_assoc]
    exact .char (spelled_escapeChar c _) ih

theorem quote_append (s : String) (rest : List Char) :
    quote s ++ rest = '"' :: (s.toList.flatMap escapeChar ++ '"' :: rest) := by
  simp [quote]

theorem spells_quote (s : String) (rest : List Char) :
    Spells (quote s ++ rest) (.value (.string s)) rest := by
  have h := Spells.string (quoted_escaped s.toList rest)
  rwa [String.ofList_toList, ← quote_append] at h

/-! ## 3. Values -/

theorem blanks_newLine (level : Nat) (rest : List Char) : Blanks (newLine level ++ rest) rest := by
  refine blanks_append (fun b hb => ?_) rest
  rcases List.mem_cons.mp hb with rfl | hb
  · decide
  · rw [List.eq_of_mem_replicate hb]
    decide

theorem key_quote (level : Nat) (key : String) (rest : List Char) :
    Key (newLine level ++ (quote key ++ ':' :: rest)) key rest := by
  have hopen := blanks_newLine level (quote key ++ ':' :: rest)
  rw [quote_append] at hopen ⊢
  have h := Key.mk hopen (quoted_escaped key.toList _) (.done _)
  rwa [String.ofList_toList] at h

/-- Whatever follows, the text of a value spells what it means. -/
def Value.Written (v : Value) : Prop :=
  ∀ level rest, Spells (write level v ++ rest) (.value v.data) rest

-- Each item and each field starts a line, and the closing bracket is on a line of its own, so what
-- stands between them is blank.
theorem Value.Written.item {v : Value} (h : v.Written) (level : Nat) {next_ rest : List Char}
    (hafter : Blanks next_ rest) :
    Spells (newLine level ++ (write level v ++ next_)) (.element v.data) rest :=
  .element (blanks_newLine level _) (h level next_) hafter

theorem Value.Written.field {v : Value} (h : v.Written) (level : Nat) {next_ rest : List Char}
    (hafter : Blanks next_ rest) :
    Spells (' ' :: (write level v ++ next_)) (.element v.data) rest :=
  .element (.more rfl (.done _)) (h level next_) hafter

theorem spells_items {first : Value} {items : List Value} (hfirst : first.Written)
    (hitems : ∀ v ∈ items, v.Written) (level outer : Nat) (rest : List Char) :
    Spells (newLine level ++ (write level first ++ (writeItems level items ++
      (newLine outer ++ ']' :: rest)))) (.items (first.data :: itemsData items)) rest := by
  induction items generalizing first with
  | nil => exact .lastItem (hfirst.item level (blanks_newLine outer _))
  | cons v items ih =>
    obtain ⟨hv, hitems⟩ := List.forall_mem_cons.mp hitems
    simp only [writeItems, List.cons_append, List.append_assoc]
    exact .item (hfirst.item level (.done _)) (ih hv hitems)

theorem spells_fields {key : String} {first : Value} {fields : List (String × Value)}
    (hfirst : first.Written) (hfields : ∀ f ∈ fields, f.2.Written) (level outer : Nat)
    (rest : List Char) :
    Spells (newLine level ++ (quote key ++ ':' :: ' ' :: (write level first ++
      (writeFields level fields ++ (newLine outer ++ '\x7d' :: rest)))))
      (.fields ((key, first.data) :: fieldsData fields)) rest := by
  induction fields generalizing key first with
  | nil => exact .lastField (key_quote level key _) (hfirst.field level (blanks_newLine outer _))
  | cons f fields ih =>
    obtain ⟨hf, hfields⟩ := List.forall_mem_cons.mp hfields
    simp only [writeFields, List.cons_append, List.append_assoc, List.nil_append]
    exact .field (key_quote level key _) (hfirst.field level (.done _)) (ih hf hfields)

mutual

theorem Value.written : (v : Value) → v.Written
  | .number n => fun level rest => by
    rw [write]
    exact .number (number_repr n rest)
  | .string s => fun level rest => by
    rw [write]
    exact spells_quote s rest
  | .array [] => fun level rest => by
    rw [write]
    exact .emptyArray (.done _)
  | .array (v :: items) => fun level rest => by
    rw [write]
    simp only [List.cons_append, List.append_assoc, List.nil_append]
    -- the items of an array are one level further in, and its end is not
    exact .array (spells_items v.written (items_written items) (level + 1) level rest)
  | .object [] => fun level rest => by
    rw [write]
    exact .emptyObject (.done _)
  | .object ((key, v) :: fields) => fun level rest => by
    rw [write]
    simp only [List.cons_append, List.append_assoc, List.nil_append]
    exact .object (spells_fields v.written (fields_written fields) (level + 1) level rest)

theorem items_written : (items : List Value) → ∀ v ∈ items, v.Written
  | [] => fun _ hv => nomatch hv
  | v :: items => List.forall_mem_cons.mpr ⟨v.written, items_written items⟩

theorem fields_written : (fields : List (String × Value)) → ∀ f ∈ fields, f.2.Written
  | [] => fun _ hf => nomatch hf
  | (_, v) :: fields => List.forall_mem_cons.mpr ⟨v.written, fields_written fields⟩

end

/-- The text of a value is one JSON value. -/
theorem isText_text (v : Value) : IsText v.text v.data := by
  have h := v.written 0 []
  rwa [List.append_nil] at h

/-- A value on a line is a document. -/
theorem spells_text_line (v : Value) : Spells (v.text ++ ['\n']) (.element v.data) [] :=
  .element (.done _) (v.written 0 _) (.more rfl (.done []))

end SecretScan.Json
