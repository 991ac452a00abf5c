import Mathlib

/-!
# The grammar of JSON

Which texts are JSON and what they mean.  A text is looked at from its front: `Spells t form rest`
says that `t` starts with a text of `form` and goes on with `rest`.  The grammar leaves open where a
number ends, so `12` may be the number one, followed by `2`; nothing of the kind is left open for a
document.
-/

namespace SecretScan.Json

/-- The number `mantissa * 10 ^ exponent`. -/
structure Decimal where
  mantissa : Int
  exponent : Int
  deriving DecidableEq, Repr

def Decimal.value (n : Decimal) : ℚ := n.mantissa * 10 ^ n.exponent

/-- What a text means. -/
inductive Data where
  | null
  | boolean (b : Bool)
  | number (n : Decimal)
  | string (s : String)
  | array (items : List Data)
  | object (fields : List (String × Data))

/-! ## 1. Blanks -/

def isBlank (c : Char) : Bool := c = ' ' || c = '\t' || c = '\n' || c = '\r'

inductive Blanks : List Char → List Char → Prop where
  | done (t : List Char) : Blanks t t
  | more {c : Char} {t rest : List Char} (hc : isBlank c) (h : Blanks t rest) : Blanks (c :: t) rest

theorem Blanks.length_le {t rest : List Char} (h : Blanks t rest) : rest.length ≤ t.length := by
  induction h with
  | done t => exact le_rfl
  | more hc h ih => exact ih.trans (Nat.le_succ _)

theorem blanks_append {bs : List Char} (h : ∀ b ∈ bs, isBlank b) (rest : List Char) :
    Blanks (bs ++ rest) rest := by
  induction bs with
  | nil => exact .done rest
  | cons b bs ih =>
    obtain ⟨hb, hbs⟩ := List.forall_mem_cons.mp h
    exact .more hb (ih hbs)

/-! ## 2. Numbers -/

/-- One digit or more. -/
structure Digits (t ds rest : List Char) : Prop where
  text : t = ds ++ rest
  ne_nil : ds ≠ []
  digits : ∀ d ∈ ds, d.isDigit

/-- The digits before the decimal point.  A zero is not followed by another digit. -/
structure Whole (t ds rest : List Char) : Prop extends Digits t ds rest where
  noZero : ds.head? = some '0' → ds = ['0']

inductive Sign : List Char → Bool → List Char → Prop where
  | absent (t : List Char) : Sign t false t
  | minus (t : List Char) : Sign ('-' :: t) true t

inductive Fraction : List Char → List Char → List Char → Prop where
  | absent (t : List Char) : Fraction t [] t
  | present {t ds rest : List Char} (h : Digits t ds rest) : Fraction ('.' :: t) ds rest

/-- The sign of a power of ten, which may also be a plus. -/
inductive PowerSign : List Char → Bool → List Char → Prop where
  | absent (t : List Char) : PowerSign t false t
  | plus (t : List Char) : PowerSign ('+' :: t) false t
  | minus (t : List Char) : PowerSign ('-' :: t) true t

/-- The number with these digits. -/
def signed (negative : Bool) (ds : List Char) : Int :=
  let n : Int := Nat.ofDigitChars 10 ds 0
  if negative then -n else n

inductive Power : List Char → Int → List Char → Prop where
  | absent (t : List Char) : Power t 0 t
  | present {c : Char} {t t' ds rest : List Char} {negative : Bool} (hc : c = 'e' ∨ c = 'E')
    (hsign : PowerSign t negative t') (h : Digits t' ds rest) :
    Power (c :: t) (signed negative ds) rest

/-- The number that its parts make: what stands behind the decimal point counts as tenths,
hundredths and so on. -/
def Decimal.ofParts (negative : Bool) (whole fraction : List Char) (power : Int) : Decimal :=
  ⟨signed negative (whole ++ fraction), power - fraction.length⟩

inductive Number : List Char → Decimal → List Char → Prop where
  | mk {t t₁ t₂ t₃ rest whole fraction : List Char} {negative : Bool} {power : Int}
    (hsign : Sign t negative t₁) (hwhole : Whole t₁ whole t₂) (hfraction : Fraction t₂ fraction t₃)
    (hpower : Power t₃ power rest) : Number t (.ofParts negative whole fraction power) rest

/-! ## 3. Strings -/

/-- The characters that stand for a character after a backslash. -/
def shortEscapes : List (Char × Char) :=
  [('"', '"'), ('\\', '\\'), ('/', '/'), ('b', '\x08'), ('f', '\x0c'), ('n', '\n'), ('r', '\r'),
    ('t', '\t')]

/-- The value of a digit in base sixteen. -/
def hexValue? (c : Char) : Option Nat := "0123456789abcdef".toList.idxOf? c.toLower

/-- Four digits in base sixteen. -/
def readUnit : List Char → Option (Nat × List Char)
  | a :: b :: c :: d :: rest => do
    let a ← hexValue? a
    let b ← hexValue? b
    let c ← hexValue? c
    let d ← hexValue? d
    return (((a * 16 + b) * 16 + c) * 16 + d, rest)
  | _ => none

/-- Whether a unit is the first of the two that stand for a character above U+FFFF. -/
def isHigh (n : Nat) : Bool := 0xD800 ≤ n && n < 0xDC00

/-- Whether a unit is the second of such two. -/
def isLow (n : Nat) : Bool := 0xDC00 ≤ n && n < 0xE000

/-- The code point that two units stand for. -/
def pairValue (high low : Nat) : Nat := 0x10000 + (high - 0xD800) * 0x400 + (low - 0xDC00)

/-- A character of a string. -/
inductive Spelled : List Char → Char → List Char → Prop where
  | plain {c : Char} {t : List Char} (hquote : c ≠ '"') (hbackslash : c ≠ '\\')
    (hcontrol : 0x20 ≤ c.toNat) : Spelled (c :: t) c t
  | short {e c : Char} {t : List Char} (h : (e, c) ∈ shortEscapes) : Spelled ('\\' :: e :: t) c t
  -- half of a pair is the code of no character, so it cannot stand alone
  | unit {c : Char} {t rest : List Char} (h : readUnit t = some (c.toNat, rest)) :
    Spelled ('\\' :: 'u' :: t) c rest
  | pair {c : Char} {high low : Nat} {t t' rest : List Char}
    (hhigh : readUnit t = some (high, '\\' :: 'u' :: t')) (hlow : readUnit t' = some (low, rest))
    (hpair : isHigh high ∧ isLow low) (hc : c.toNat = pairValue high low) :
    Spelled ('\\' :: 'u' :: t) c rest

/-- The characters of a string and the quote at its end. -/
inductive Quoted : List Char → List Char → List Char → Prop where
  | close (t : List Char) : Quoted ('"' :: t) [] t
  | char {c : Char} {t t' s rest : List Char} (hc : Spelled t c t') (h : Quoted t' s rest) :
    Quoted t (c :: s) rest

/-! ## 4. Values -/

/-- The name of a field and the colon after it. -/
inductive Key : List Char → String → List Char → Prop where
  | mk {t t₁ t₂ s rest : List Char} (hopen : Blanks t ('"' :: t₁)) (h : Quoted t₁ s t₂)
    (hcolon : Blanks t₂ (':' :: rest)) : Key t (String.ofList s) rest

/-- What may be spelled. -/
inductive Form where
  | value (d : Data)
  /-- A value with blanks around it. -/
  | element (d : Data)
  /-- The items of an array that has any, and the bracket at their end. -/
  | items (ds : List Data)
  /-- The fields of an object that has any, and the brace at their end. -/
  | fields (fs : List (String × Data))

/-- `t` starts with a text of a form and goes on with `rest`. -/
inductive Spells : List Char → Form → List Char → Prop where
  | nullName (t : List Char) : Spells ('n' :: 'u' :: 'l' :: 'l' :: t) (.value .null) t
  | trueName (t : List Char) : Spells ('t' :: 'r' :: 'u' :: 'e' :: t) (.value (.boolean true)) t
  | falseName (t : List Char) :
    Spells ('f' :: 'a' :: 'l' :: 's' :: 'e' :: t) (.value (.boolean false)) t
  | number {t rest : List Char} {n : Decimal} (h : Number t n rest) :
    Spells t (.value (.number n)) rest
  | string {t s rest : List Char} (h : Quoted t s rest) :
    Spells ('"' :: t) (.value (.string (String.ofList s))) rest
  | emptyArray {t rest : List Char} (h : Blanks t (']' :: rest)) :
    Spells ('[' :: t) (.value (.array [])) rest
  | array {t rest : List Char} {ds : List Data} (h : Spells t (.items ds) rest) :
    Spells ('[' :: t) (.value (.array ds)) rest
  | emptyObject {t rest : List Char} (h : Blanks t ('\x7d' :: rest)) :
    Spells ('\x7b' :: t) (.value (.object [])) rest
  | object {t rest : List Char} {fs : List (String × Data)} (h : Spells t (.fields fs) rest) :
    Spells ('\x7b' :: t) (.value (.object fs)) rest
  | element {t t₁ t₂ rest : List Char} {d : Data} (hbefore : Blanks t t₁)
    (h : Spells t₁ (.value d) t₂) (hafter : Blanks t₂ rest) : Spells t (.element d) rest
  | lastItem {t rest : List Char} {d : Data} (h : Spells t (.element d) (']' :: rest)) :
    Spells t (.items [d]) rest
  | item {t t₁ rest : List Char} {d : Data} {ds : List Data}
    (h : Spells t (.element d) (',' :: t₁)) (hrest : Spells t₁ (.items ds) rest) :
    Spells t (.items (d :: ds)) rest
  | lastField {t t₁ rest : List Char} {key : String} {d : Data} (hkey : Key t key t₁)
    (h : Spells t₁ (.element d) ('\x7d' :: rest)) : Spells t (.fields [(key, d)]) rest
  | field {t t₁ t₂ rest : List Char} {key : String} {d : Data} {fs : List (String × Data)}
    (hkey : Key t key t₁) (h : Spells t₁ (.element d) (',' :: t₂))
    (hrest : Spells t₂ (.fields fs) rest) : Spells t (.fields ((key, d) :: fs)) rest

/-- The text of a value, with nothing before or after it. -/
def IsText (t : List Char) (d : Data) : Prop := Spells t (.value d) []

end SecretScan.Json
