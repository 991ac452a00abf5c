import SecretScan.Proofs.Json.Grammar
import SecretScan.Toml.Reader

/-!
# The grammar of plain documents

A plain document has fields and, after them, tables of fields, each below a header.  Keys have no
quotes, and values are integers, booleans, strings in double quotes and arrays of such strings.  This
is a part of TOML: which texts are plain documents, and what they hold.  A text is looked at from its
front, as in the grammar of JSON: it starts with something and goes on with `rest`.
-/

namespace SecretScan.Toml

open Json (PowerSign Whole signed)

/-- The values of a plain document. -/
inductive Plain where
  | string (s : String)
  | integer (n : Int)
  | boolean (b : Bool)
  | strings (ss : List String)
  deriving DecidableEq

def Plain.value : Plain → Value
  | string s => .string s
  | integer n => .integer n
  | boolean b => .boolean b
  | strings ss => .array (ss.map .string)

/-- The contents of a plain document. -/
structure Document where
  /-- The fields before the first header. -/
  top : List (String × Plain)
  /-- The tables by their names. -/
  tables : List (String × List (String × Plain))

/-- The fields of a table, as a reader gives them. -/
def values (fields : List (String × Plain)) : List (String × Value) :=
  fields.map fun field => (field.1, field.2.value)

/-- The fields of a document, its tables among them. -/
def Document.fields (d : Document) : List (String × Value) :=
  values d.top ++ d.tables.map fun table => (table.1, .table (values table.2))

/-- No two fields of a table have the same key. -/
structure Document.Distinct (d : Document) : Prop where
  keys : (d.top.map Prod.fst ++ d.tables.map Prod.fst).Nodup
  inner : ∀ table ∈ d.tables, (table.2.map Prod.fst).Nodup

/-! ## 1. What stands between parts -/

/-- Blanks within a line. -/
inductive Spaces : List Char → List Char → Prop where
  | done (t : List Char) : Spaces t t
  | more {c : Char} {t rest : List Char} (hc : isSpace c = true) (h : Spaces t rest) :
    Spaces (c :: t) rest

inductive Comment : List Char → List Char → Prop where
  | absent (t : List Char) : Comment t t
  | present {text : List Char} (h : ∀ c ∈ text, isPlain c = true) (t : List Char) :
    Comment ('#' :: (text ++ t)) t

/-- The end of a document also ends its last line. -/
inductive LineBreak : List Char → List Char → Prop where
  | feed (t : List Char) : LineBreak ('\n' :: t) t
  | returnFeed (t : List Char) : LineBreak ('\r' :: '\n' :: t) t
  | finish : LineBreak [] []

/-- What may stand behind the last part of a line. -/
inductive LineEnd : List Char → List Char → Prop where
  | mk {t t₁ t₂ rest : List Char} (hspaces : Spaces t t₁) (hcomment : Comment t₁ t₂)
    (hbreak : LineBreak t₂ rest) : LineEnd t rest

/-- Lines that are empty or hold a comment, and the blanks at the start of the next line. -/
inductive Gap : List Char → List Char → Prop where
  | spaces {t rest : List Char} (h : Spaces t rest) : Gap t rest
  | line {t t₁ rest : List Char} (hend : LineEnd t t₁) (h : Gap t₁ rest) : Gap t rest

/-! ## 2. Strings -/

/-- The characters that stand for a character after a backslash. -/
def shortEscapes : List (Char × Char) :=
  [('b', '\x08'), ('t', '\t'), ('n', '\n'), ('f', '\x0c'), ('r', '\r'), ('e', '\x1b'), ('"', '"'),
    ('\\', '\\')]

/-- The letters that announce a code point after a backslash, and how many digits it has. -/
def codeEscapes : List (Char × Nat) := [('x', 2), ('u', 4), ('U', 8)]

/-- The digits in base sixteen, with their values. -/
def hexDigits : List (Char × Nat) :=
  "0123456789abcdef".toList.zipIdx ++ "ABCDEF".toList.zipIdx 10

/-- The number that digits in base sixteen spell. -/
inductive Hex : List Char → Nat → Prop where
  | nil : Hex [] 0
  | snoc {ds : List Char} {n v : Nat} {d : Char} (h : Hex ds n) (hd : (d, v) ∈ hexDigits) :
    Hex (ds ++ [d]) (n * 16 + v)

/-- A character of a string. -/
inductive Spelled : List Char → Char → List Char → Prop where
  | plain {c : Char} {t : List Char} (hplain : isPlain c = true) (hquote : c ≠ '"')
    (hbackslash : c ≠ '\\') : Spelled (c :: t) c t
  | short {e c : Char} {t : List Char} (h : (e, c) ∈ shortEscapes) : Spelled ('\\' :: e :: t) c t
  | code {letter c : Char} {ds t : List Char} (h : (letter, ds.length) ∈ codeEscapes)
    (hcode : Hex ds c.toNat) : Spelled ('\\' :: letter :: (ds ++ t)) c t

/-- The characters of a string and the quote at its end. -/
inductive Quoted : List Char → List Char → List Char → Prop where
  | close (t : List Char) : Quoted ('"' :: t) [] t
  | char {c : Char} {t t' s rest : List Char} (hc : Spelled t c t') (h : Quoted t' s rest) :
    Quoted t (c :: s) rest

/-! ## 3. Values -/

/-- An integer in base ten. -/
inductive Integer : List Char → Int → List Char → Prop where
  | mk {t t' ds rest : List Char} {negative : Bool} (hsign : PowerSign t negative t')
    (hwhole : Whole t' ds rest) : Integer t (signed negative ds) rest

/-- The strings of an array and the bracket at its end.  A comma may stand before the bracket. -/
inductive Strings : List Char → List String → List Char → Prop where
  | close {t rest : List Char} (h : Gap t (']' :: rest)) : Strings t [] rest
  | last {t t₁ t₂ s rest : List Char} (hgap : Gap t ('"' :: t₁)) (h : Quoted t₁ s t₂)
    (hclose : Gap t₂ (']' :: rest)) : Strings t [String.ofList s] rest
  | more {t t₁ t₂ t₃ s rest : List Char} {ss : List String} (hgap : Gap t ('"' :: t₁))
    (h : Quoted t₁ s t₂) (hcomma : Gap t₂ (',' :: t₃)) (hrest : Strings t₃ ss rest) :
    Strings t (String.ofList s :: ss) rest

inductive Spells : List Char → Plain → List Char → Prop where
  | trueName (t : List Char) : Spells ('t' :: 'r' :: 'u' :: 'e' :: t) (.boolean true) t
  | falseName (t : List Char) :
    Spells ('f' :: 'a' :: 'l' :: 's' :: 'e' :: t) (.boolean false) t
  | integer {t rest : List Char} {n : Int} (h : Integer t n rest) (hfits : fits n = true) :
    Spells t (.integer n) rest
  | string {t s rest : List Char} (h : Quoted t s rest) :
    Spells ('"' :: t) (.string (String.ofList s)) rest
  | strings {t rest : List Char} {ss : List String} (h : Strings t ss rest) :
    Spells ('[' :: t) (.strings ss) rest

/-! ## 4. Lines -/

/-- Whether a key can stand without quotes. -/
def IsBare (key : String) : Prop := key.toList ≠ [] ∧ ∀ c ∈ key.toList, isKeyChar c = true

instance (key : String) : Decidable (IsBare key) :=
  decidable_of_iff (key.toList ≠ [] ∧ key.toList.all isKeyChar = true)
    (and_congr_right fun _ => List.all_eq_true)

/-- A key and its value, on a line. -/
inductive Assignment : List Char → String × Plain → List Char → Prop where
  | mk {key : String} {v : Plain} {t t₁ t₂ t₃ rest : List Char} (hkey : IsBare key)
    (hbefore : Spaces t ('=' :: t₁)) (hafter : Spaces t₁ t₂) (h : Spells t₂ v t₃)
    (hend : LineEnd t₃ rest) : Assignment (key.toList ++ t) (key, v) rest

/-- The header of a table, on a line. -/
inductive Header : List Char → String → List Char → Prop where
  | mk {key : String} {t t₁ t₂ rest : List Char} (hkey : IsBare key)
    (hopen : Spaces t (key.toList ++ t₁)) (hclose : Spaces t₁ (']' :: t₂))
    (hend : LineEnd t₂ rest) : Header ('[' :: t) key rest

/-- Any number of assignments. -/
inductive Body : List Char → List (String × Plain) → List Char → Prop where
  | done (t : List Char) : Body t [] t
  | line {t t₁ t₂ rest : List Char} {field : String × Plain} {fields : List (String × Plain)}
    (hgap : Gap t t₁) (h : Assignment t₁ field t₂) (hrest : Body t₂ fields rest) :
    Body t (field :: fields) rest

/-- Any number of tables, up to the end of the document. -/
inductive Tables : List Char → List (String × List (String × Plain)) → Prop where
  | done {t : List Char} (h : Gap t []) : Tables t []
  | table {t t₁ t₂ t₃ : List Char} {key : String} {fields : List (String × Plain)}
    {tables : List (String × List (String × Plain))} (hgap : Gap t t₁) (hheader : Header t₁ key t₂)
    (hbody : Body t₂ fields t₃) (hrest : Tables t₃ tables) : Tables t ((key, fields) :: tables)

/-- The text of a document. -/
def Document.IsText (d : Document) (text : List Char) : Prop :=
  ∃ t, Body text d.top t ∧ Tables t d.tables

end SecretScan.Toml
