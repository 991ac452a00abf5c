import SecretScan.Proofs.Json.Writer
import SecretScan.Proofs.Toml.Grammar

/-!
# Writing plain documents

Every plain document with proper keys and integers has a text: one field or header in each line, and
strings with the usual escapes (`Document.isText_text`).
-/

namespace SecretScan.Toml

/-! ## 1. Texts -/

/-- A character of a string.  What has no short escape and is no plain character is written by its
code, which has at most two digits other than zero. -/
def escapeChar (c : Char) : List Char :=
  match shortEscapes.find? (·.2 == c) with
  | some (e, _) => ['\\', e]
  | none =>
    if isPlain c then [c]
    else ['\\', 'u', '0', '0', Json.hexDigit (c.toNat / 16), Json.hexDigit (c.toNat % 16)]

def quote (s : String) : List Char := '"' :: (s.toList.flatMap escapeChar ++ ['"'])

def integerText : Int → List Char
  | .ofNat n => Nat.toDigits 10 n
  | .negSucc n => '-' :: Nat.toDigits 10 (n + 1)

/-- The strings of an array, with commas between them. -/
def itemsText : List String → List Char
  | [] => []
  | [s] => quote s
  | s :: ss => quote s ++ ',' :: itemsText ss

def Plain.text : Plain → List Char
  | string s => quote s
  | integer n => integerText n
  | boolean true => ['t', 'r', 'u', 'e']
  | boolean false => ['f', 'a', 'l', 's', 'e']
  | strings ss => '[' :: (itemsText ss ++ [']'])

def fieldLine (field : String × Plain) : List Char :=
  field.1.toList ++ " = ".toList ++ field.2.text ++ ['\n']

def tableLines (table : String × List (String × Plain)) : List Char :=
  '[' :: (table.1.toList ++ "]\n".toList ++ table.2.flatMap fieldLine)

/-- A text of a document. -/
def Document.text (d : Document) : List Char :=
  d.top.flatMap fieldLine ++ d.tables.flatMap tableLines

/-! ## 2. Strings -/

theorem mem_hexDigits : ∀ n < 16, (Json.hexDigit n, n) ∈ hexDigits := by decide

/-- The characters that are not plain have small codes. -/
theorem toNat_lt_of_not_isPlain {c : Char} (h : isPlain c = false) : c.toNat < 0x80 := by
  simp only [isPlain, Bool.or_eq_false_iff, Bool.and_eq_false_iff, decide_eq_false_iff_not,
    bne_eq_false_iff_eq] at h
  obtain ⟨-, h | rfl⟩ := h
  · omega
  · decide

theorem hex_of_lt {n : Nat} (h : n < 0x100) :
    Hex ['0', '0', Json.hexDigit (n / 16), Json.hexDigit (n % 16)] n := by
  have hzero : ('0', 0) ∈ hexDigits := by decide
  have hhigh := mem_hexDigits (n / 16) (by omega)
  have hlow := mem_hexDigits (n % 16) (by omega)
  have hdigits := (((Hex.nil.snoc hzero).snoc hzero).snoc hhigh).snoc hlow
  have hvalue : (((0 * 16 + 0) * 16 + 0) * 16 + n / 16) * 16 + n % 16 = n := by omega
  rwa [hvalue] at hdigits

theorem spelled_escapeChar (c : Char) (rest : List Char) :
    Spelled (escapeChar c ++ rest) c rest := by
  rw [escapeChar]
  split
  next e d hfind =>
    have hd : d = c := by simpa using List.find?_some hfind
    exact .short (hd ▸ List.mem_of_find?_eq_some hfind)
  next hfind =>
    have hne : ∀ p ∈ shortEscapes, p.2 ≠ c := by simpa using hfind
    -- a quote and a backslash have short escapes, so neither is left here
    split_ifs with hplain
    · have hquote : c ≠ '"' := (hne ('"', '"') (by decide)).symm
      have hbackslash : c ≠ '\\' := (hne ('\\', '\\') (by decide)).symm
      exact .plain hplain hquote hbackslash
    · have hlt := toNat_lt_of_not_isPlain (Bool.eq_false_iff.mpr hplain)
      have hletter : ('u', 4) ∈ codeEscapes := by decide
      have hcode := hex_of_lt (show c.toNat < 0x100 by omega)
      exact .code hletter hcode

theorem quoted_escaped (s rest : List Char) :
    Quoted (s.flatMap escapeChar ++ '"' :: rest) s rest := by
  induction s with
  | nil => exact .close rest
  | cons c s ih =>
    rw [List.flatMap_cons, List.append_assoc]
    exact .char (spelled_escapeChar c _) ih

theorem quote_append (s : String) (rest : List Char) :
    quote s ++ rest = '"' :: (s.toList.flatMap escapeChar ++ '"' :: rest) := by
  simp [quote]

theorem strings_itemsText (ss : List String) (rest : List Char) :
    Strings (itemsText ss ++ ']' :: rest) ss rest := by
  have hgap (t : List Char) : Gap t t := .spaces (.done t)
  fun_induction itemsText ss with
  | case1 => exact .close (hgap _)
  | case2 s =>
    have h := Strings.last (hgap _) (quoted_escaped s.toList _) (hgap (']' :: rest))
    rwa [String.ofList_toList, ← quote_append] at h
  | case3 s ss _ ih =>
    have h := Strings.more (hgap _) (quoted_escaped s.toList _) (hgap (',' :: _)) ih
    rwa [String.ofList_toList, ← quote_append, ← List.cons_append, ← List.append_assoc] at h

/-! ## 3. Values -/

theorem integer_text (n : Int) (rest : List Char) : Integer (integerText n ++ rest) n rest := by
  cases n with
  | ofNat n =>
    have hvalue : Json.signed false (Nat.toDigits 10 n) = n := by
      simp [Json.signed]
    have h := Integer.mk (.absent _) (Json.whole_toDigits n rest)
    rwa [hvalue] at h
  | negSucc n =>
    have hvalue : Json.signed true (Nat.toDigits 10 (n + 1)) = Int.negSucc n := by
      simp [Json.signed, Int.negSucc_eq]
    have h := Integer.mk (.minus _) (Json.whole_toDigits (n + 1) rest)
    rwa [hvalue] at h

/-- Whether a value has a text: the reader has a bound for integers. -/
def Plain.Fits : Plain → Prop
  | integer n => fits n = true
  | _ => True

instance : (v : Plain) → Decidable v.Fits
  | .integer n => inferInstanceAs (Decidable (fits n = true))
  | .string _ | .boolean _ | .strings _ => inferInstanceAs (Decidable True)

theorem spells_text {v : Plain} (h : v.Fits) (rest : List Char) :
    Spells (v.text ++ rest) v rest := by
  cases v with
  | string s =>
    have hquoted := Spells.string (quoted_escaped s.toList rest)
    rwa [String.ofList_toList, ← quote_append] at hquoted
  | integer n => exact .integer (integer_text n rest) h
  | boolean b =>
    cases b with
    | true => exact .trueName rest
    | false => exact .falseName rest
  | strings ss =>
    have hstrings := Spells.strings (strings_itemsText ss rest)
    simpa [Plain.text] using hstrings

/-! ## 4. Lines -/

/-- The keys stand without quotes and the integers are not too large. -/
def Proper (fields : List (String × Plain)) : Prop :=
  ∀ field ∈ fields, IsBare field.1 ∧ field.2.Fits

instance (fields : List (String × Plain)) : Decidable (Proper fields) :=
  inferInstanceAs (Decidable (∀ field ∈ fields, IsBare field.1 ∧ field.2.Fits))

theorem lineEnd_feed (rest : List Char) : LineEnd ('\n' :: rest) rest :=
  .mk (.done _) (.absent _) (.feed rest)

theorem assignment_fieldLine {field : String × Plain} (hkey : IsBare field.1)
    (hfits : field.2.Fits) (rest : List Char) :
    Assignment (fieldLine field ++ rest) field rest := by
  have hbefore : Spaces (' ' :: '=' :: ' ' :: (field.2.text ++ '\n' :: rest))
      ('=' :: ' ' :: (field.2.text ++ '\n' :: rest)) := .more rfl (.done _)
  have hafter : Spaces (' ' :: (field.2.text ++ '\n' :: rest)) (field.2.text ++ '\n' :: rest) :=
    .more rfl (.done _)
  have h := Assignment.mk hkey hbefore hafter (spells_text hfits _) (lineEnd_feed rest)
  simpa [fieldLine] using h

theorem body_fieldLines {fields : List (String × Plain)} (h : Proper fields) (rest : List Char) :
    Body (fields.flatMap fieldLine ++ rest) fields rest := by
  induction fields with
  | nil => exact .done rest
  | cons field fields ih =>
    obtain ⟨⟨hkey, hfits⟩, hfields⟩ := List.forall_mem_cons.mp h
    rw [List.flatMap_cons, List.append_assoc]
    exact .line (.spaces (.done _)) (assignment_fieldLine hkey hfits _) (ih hfields)

theorem header_line {key : String} (hkey : IsBare key) (rest : List Char) :
    Header ('[' :: (key.toList ++ ']' :: '\n' :: rest)) key rest :=
  .mk hkey (.done _) (.done _) (lineEnd_feed rest)

theorem tables_tableLines {tables : List (String × List (String × Plain))}
    (h : ∀ table ∈ tables, IsBare table.1 ∧ Proper table.2) :
    Tables (tables.flatMap tableLines) tables := by
  induction tables with
  | nil => exact .done (.spaces (.done []))
  | cons table tables ih =>
    obtain ⟨⟨hkey, hproper⟩, htables⟩ := List.forall_mem_cons.mp h
    have htable := Tables.table (.spaces (.done _)) (header_line hkey _) (body_fieldLines hproper _)
      (ih htables)
    simpa [tableLines] using htable

/-- The keys of a document stand without quotes, and its integers are not too large. -/
structure Document.Proper (d : Document) : Prop where
  top : Toml.Proper d.top
  tables : ∀ table ∈ d.tables, IsBare table.1 ∧ Toml.Proper table.2

theorem Document.isText_text {d : Document} (h : d.Proper) : d.IsText d.text :=
  ⟨_, body_fieldLines h.top _, tables_tableLines h.tables⟩

end SecretScan.Toml
