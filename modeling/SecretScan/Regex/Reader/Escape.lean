import SecretScan.Regex.Reader.Basic
import SecretScan.Text.Property

/-!
# Escapes

What a backslash and the characters after it stand for, and the sets of characters that have a
letter or a name of their own.
-/

namespace SecretScan.Regex

/-- The classes with a letter: `\d`, `\s` and `\w`. -/
inductive LetterClass where
  | digit
  | space
  | word
  deriving DecidableEq, Repr

/-- What an escape stands for. -/
inductive Escape where
  /-- A character; `byte` if it was written as `\xNN`. -/
  | char (c : Char) (byte : Bool)
  | textStart
  | textEnd
  | edge (e : WordEdge)
  | letter (k : LetterClass) (negated : Bool)
  /-- A property by its name, or by name and value. -/
  | property (name : String) (value : Option String) (negated : Bool)
  deriving DecidableEq, Repr

namespace Reader

/-- The value of a hexadecimal digit. -/
def hexValue? (c : Char) : Option Nat :=
  if c.isDigit then some (c.toNat - '0'.toNat)
  else if 'a' ≤ c && c ≤ 'f' then some (c.toNat - 'a'.toNat + 10)
  else if 'A' ≤ c && c ≤ 'F' then some (c.toNat - 'A'.toNat + 10)
  else none

/-- The character with the code point that hexadecimal digits spell. -/
def ofHex? (digits : List Char) : Option Char := do
  let values ← digits.mapM hexValue?
  let code := values.foldl (fun n d => n * 16 + d) 0
  if !digits.isEmpty && code.isValidChar then some (Char.ofNat code) else none

/-- Takes `n` visible characters. -/
def takeVisible (verbose : Bool) : Nat → List Char → Option (List Char × List Char)
  | 0, cs => some ([], cs)
  | n + 1, cs => match skip verbose cs with
    | [] => none
    | c :: rest => (takeVisible verbose n rest).map fun (taken, rest) => (c :: taken, rest)

/-- Reads a character by its code point: as many digits as `count` says, or any number of them
between braces. -/
def readHex (verbose : Bool) (count : Nat) (cs : List Char) :
    Except ReadError (Escape × List Char) :=
  match skip verbose cs with
  | '{' :: cs => match spanVisible (· != '}') verbose false cs with
    | (digits, _ :: rest) => match ofHex? digits with
      | some c => .ok (.char c false, rest)
      | none => .error .badEscape
    | (_, []) => .error .badEscape
  | cs => match takeVisible verbose count cs with
    | some (digits, rest) => match ofHex? digits with
      | some c => .ok (.char c (count == 2), rest)
      | none => .error .badEscape
    | none => .error .badEscape

/-- Cuts the text of a property at `!=`, or else at the first `:`, or else at the first `=`. All
three mean that the property has the value. -/
def splitProperty (text : List Char) : String × Option String :=
  match cutAtUnequal text with
  | some (name, value) => (String.ofList name, some (String.ofList value))
  | none =>
    let sep := if text.contains ':' then ':' else '='
    if text.contains sep then
      (String.ofList (text.takeWhile (· != sep)),
        some (String.ofList ((text.dropWhile (· != sep)).drop 1)))
    else (String.ofList text, none)
where
  cutAtUnequal : List Char → Option (List Char × List Char)
    | '!' :: '=' :: rest => some ([], rest)
    | c :: rest => (cutAtUnequal rest).map fun (name, value) => (c :: name, value)
    | [] => none

/-- Reads the name of a property: one character, or a text between braces. -/
def readProperty (verbose negated : Bool) (cs : List Char) :
    Except ReadError (Escape × List Char) :=
  match skip verbose cs with
  | [] => .error .badEscape
  | '{' :: cs => match spanVisible (· != '}') verbose false cs with
    | (text, _ :: rest) =>
      let (name, value) := splitProperty text
      .ok (.property name value negated, rest)
    | (_, []) => .error .badEscape
  | c :: rest =>
    if c = '\\' then .error .badEscape
    else .ok (.property (String.ofList [c]) none negated, rest)

/-- Whether a character may stand in the name of an edge of a word. -/
def isEdgeChar (c : Char) : Bool := c.isAlpha || c == '-'

/-- Reads what may follow `\b`: the name of an edge between braces. Braces that hold anything else
than a name are left for the bounds of a repetition. -/
def readEdge (verbose : Bool) (cs : List Char) : Except ReadError (Escape × List Char) :=
  match cs with
  | '{' :: inner => match skip verbose inner with
    | [] => .error .badEscape
    | c :: _ =>
      if isEdgeChar c then
        match spanVisible isEdgeChar verbose false inner with
        | (name, '}' :: rest) => match String.ofList name with
          | "start" => .ok (.edge .start, rest)
          | "end" => .ok (.edge .stop, rest)
          | "start-half" => .ok (.edge .startHalf, rest)
          | "end-half" => .ok (.edge .stopHalf, rest)
          | _ => .error .badEscape
        | _ => .error .badEscape
      else .ok (.edge .boundary, cs)
  | _ => .ok (.edge .boundary, cs)

/-- Whether a backslash before the character stands for the character itself: so it is with ASCII
except for letters, digits and the angle brackets. -/
def isLiteralEscape (c : Char) : Bool :=
  c.toNat < 0x80 && !c.isAlphanum && c != '<' && c != '>'

/-- Reads what follows a backslash. -/
def readEscape (verbose : Bool) : List Char → Except ReadError (Escape × List Char)
  | [] => .error .badEscape
  | c :: cs => match c with
    | 'x' => readHex verbose 2 cs
    | 'u' => readHex verbose 4 cs
    | 'U' => readHex verbose 8 cs
    | 'p' => readProperty verbose false cs
    | 'P' => readProperty verbose true cs
    | 'd' => .ok (.letter .digit false, cs)
    | 'D' => .ok (.letter .digit true, cs)
    | 's' => .ok (.letter .space false, cs)
    | 'S' => .ok (.letter .space true, cs)
    | 'w' => .ok (.letter .word false, cs)
    | 'W' => .ok (.letter .word true, cs)
    | 'a' => .ok (.char '\x07' false, cs)
    | 'f' => .ok (.char '\x0c' false, cs)
    | 't' => .ok (.char '\t' false, cs)
    | 'n' => .ok (.char '\n' false, cs)
    | 'r' => .ok (.char '\r' false, cs)
    | 'v' => .ok (.char '\x0b' false, cs)
    | 'A' => .ok (.textStart, cs)
    | 'z' => .ok (.textEnd, cs)
    | 'b' => readEdge verbose cs
    | 'B' => .ok (.edge .interior, cs)
    | '<' => .ok (.edge .start, cs)
    | '>' => .ok (.edge .stop, cs)
    | c => if isLiteralEscape c then .ok (.char c false, cs) else .error .badEscape

end Reader

/-- The set behind a class with a letter. -/
def LetterClass.set (unicode : Bool) : LetterClass → CharSet
  | .digit => .table (if unicode then Word.digitRanges else [(0x30, 0x39)])
  | .space => .table (if unicode then Blank.ranges else [(0x9, 0xd), (0x20, 0x20)])
  | .word => .table (if unicode then Word.wordRanges
      else [(0x30, 0x39), (0x41, 0x5a), (0x5f, 0x5f), (0x61, 0x7a)])

/-- What differs from the set in case only, if case is ignored. -/
def Flags.fold (f : Flags) (s : CharSet) : CharSet :=
  if f.ignoreCase then if f.unicode then .folded s else .foldedAscii s else s

/-- The complement of the set, which is not limited to ASCII. -/
def Flags.negate (f : Flags) (negated : Bool) (s : CharSet) : Except ReadError CharSet :=
  if negated then if f.unicode then .ok (.compl s) else .error .needsUnicode else .ok s

/-- The set with one character and what differs from it in case only, if case is ignored. -/
def Flags.charSet (f : Flags) (c : Char) : CharSet :=
  let codes := if !f.ignoreCase then [c.toNat]
    else if f.unicode then CaseFold.variants c.toNat
    else [c.toNat, CharSet.swapAsciiCase c.toNat].eraseDups
  .unions (codes.map fun code => .range code code)

/-- The set of a property. -/
def Flags.propertySet (f : Flags) (name : String) (value : Option String) (negated : Bool) :
    Except ReadError CharSet :=
  if !f.unicode then .error .needsUnicode
  else
    let tables := match value with
      | none => Property.named? name
      | some value => Property.valued? name value
    match tables with
    | some tables => f.negate negated (f.fold (.unions (tables.map .table)))
    | none => .error .unknownProperty

end SecretScan.Regex
