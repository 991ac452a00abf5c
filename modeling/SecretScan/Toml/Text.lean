import SecretScan.Toml.Value

/-!
# Blanks, comments and strings

The smallest parts of a document: what stands between other parts, and strings of all four kinds.
-/

namespace SecretScan.Toml

/-- Whether a character may stand in a comment or a string: all but control characters, of which the
tab is allowed. -/
def isPlain (c : Char) : Bool := c == '\t' || (0x20 ≤ c.toNat && c != '\x7f')

/-- Whether a character is a blank within a line. -/
def isSpace (c : Char) : Bool := c == ' ' || c == '\t'

/-- The text after blanks. -/
def skipSpaces (cs : List Char) : List Char := cs.dropWhile isSpace

/-- The text after blanks, comments and ends of lines; `none` if a comment or the end of a line is
malformed. `comment` tells whether reading starts in a comment. -/
def skipTrivia (comment : Bool) : List Char → Option (List Char)
  | [] => some []
  | c :: cs =>
    if c = '\n' then skipTrivia false cs
    else if c = '\r' then
      match cs with
      | '\n' :: rest => skipTrivia false rest
      | _ => none
    else if comment then if isPlain c then skipTrivia true cs else none
    else if isSpace c then skipTrivia false cs
    else if c = '#' then skipTrivia true cs
    else some (c :: cs)

/-- The text after the end of a line: blanks and a comment may come before it, and the end of the
document ends a line too. -/
def skipLineEnd (cs : List Char) : Except Error (List Char) :=
  afterBlanks (skipSpaces cs)
where
  lineEnd : List Char → Except Error (List Char)
    | [] => .ok []
    | '\n' :: rest => .ok rest
    | '\r' :: '\n' :: rest => .ok rest
    | _ => .error .badLine
  afterBlanks (cs : List Char) : Except Error (List Char) :=
    match cs with
    | '#' :: rest => lineEnd (rest.dropWhile isPlain)
    | rest => lineEnd rest

/-- The value of a digit in a base up to sixteen. -/
def digitValue? (base : Nat) (c : Char) : Option Nat :=
  let value :=
    if c.isDigit then c.toNat - '0'.toNat
    else if 'a' ≤ c && c ≤ 'f' then c.toNat - 'a'.toNat + 10
    else if 'A' ≤ c && c ≤ 'F' then c.toNat - 'A'.toNat + 10
    else 16
  if value < base then some value else none

/-- Reads a code point of exactly `n` hexadecimal digits. -/
def readCodePoint (n : Nat) (cs : List Char) : Except Error (Char × List Char) :=
  match (cs.take n).mapM (digitValue? 16) with
  | some digits =>
    let code := digits.foldl (fun value d => value * 16 + d) 0
    if digits.length = n ∧ code.isValidChar then .ok (Char.ofNat code, cs.drop n)
    else .error .badString
  | none => .error .badString

/-- Reads what follows a backslash. -/
def readEscape : List Char → Except Error (Char × List Char)
  | 'b' :: cs => .ok ('\x08', cs)
  | 't' :: cs => .ok ('\t', cs)
  | 'n' :: cs => .ok ('\n', cs)
  | 'f' :: cs => .ok ('\x0c', cs)
  | 'r' :: cs => .ok ('\r', cs)
  | 'e' :: cs => .ok ('\x1b', cs)
  | '"' :: cs => .ok ('"', cs)
  | '\\' :: cs => .ok ('\\', cs)
  | 'x' :: cs => readCodePoint 2 cs
  | 'u' :: cs => readCodePoint 4 cs
  | 'U' :: cs => readCodePoint 8 cs
  | _ => .error .badString

/-- Reads the rest of a string in double quotes. Every round takes a character, so `fuel` need not
exceed the length of the text. -/
def readBasic (fuel : Nat) (cs : List Char) : Except Error (List Char × List Char) :=
  match fuel, cs with
  | fuel + 1, c :: rest =>
    if c = '"' then .ok ([], rest)
    else if c = '\\' then do
      let (d, rest) ← readEscape rest
      let (text, rest) ← readBasic fuel rest
      return (d :: text, rest)
    else if isPlain c then do
      let (text, rest) ← readBasic fuel rest
      return (c :: text, rest)
    else .error .badString
  | _, _ => .error .badString

/-- Reads the rest of a string in single quotes. -/
def readLiteral (cs : List Char) : Except Error (List Char × List Char) :=
  let text := cs.takeWhile (· != '\'')
  match cs.dropWhile (· != '\'') with
  | _ :: rest => if text.all isPlain then .ok (text, rest) else .error .badString
  | [] => .error .badString

/-- Whether three quotes follow, which end a string of several lines. As many as two quotes before
them belong to the string: these, and the rest, are given. -/
def closing? (quote : Char) (cs : List Char) : Option (List Char × List Char) :=
  let run := min (cs.takeWhile (· == quote)).length 5
  if 3 ≤ run then some (List.replicate (run - 3) quote, cs.drop run) else none

/-- The text after a backslash at the end of a line: the end of the line and all blanks and ends of
lines after it are dropped. It is `none` if the backslash is not at the end of a line. -/
def continuation? (cs : List Char) : Option (List Char) :=
  match skipSpaces cs with
  | '\n' :: rest => some (drop rest)
  | '\r' :: '\n' :: rest => some (drop rest)
  | _ => none
where
  drop : List Char → List Char
    | '\r' :: '\n' :: rest => drop rest
    | c :: rest => if isSpace c || c == '\n' then drop rest else c :: rest
    | [] => []

/-- Reads the rest of a string of several lines. In one with double quotes a backslash starts an
escape or continues a line. -/
def readLines (quote : Char) (fuel : Nat) (cs : List Char) :
    Except Error (List Char × List Char) :=
  match fuel, cs with
  | fuel + 1, c :: rest =>
    match closing? quote cs with
    | some (text, rest) => .ok (text, rest)
    | none =>
      if c = '\\' ∧ quote = '"' then
        match continuation? rest with
        | some rest => readLines quote fuel rest
        | none => do
          let (d, rest) ← readEscape rest
          let (text, rest) ← readLines quote fuel rest
          return (d :: text, rest)
      else if isPlain c ∨ c = '\n' ∨ (c = '\r' ∧ rest.head? = some '\n') then do
        let (text, rest) ← readLines quote fuel rest
        return (c :: text, rest)
      else .error .badString
  | _, _ => .error .badString

/-- The text after the end of a line that directly follows the opening of a string of several
lines. -/
def skipFirstLineEnd : List Char → List Char
  | '\n' :: rest => rest
  | '\r' :: '\n' :: rest => rest
  | cs => cs

/-- Reads a string that starts with the given quote. -/
def readString (quote : Char) (cs : List Char) : Except Error (List Char × List Char) :=
  match cs with
  | a :: b :: rest =>
    if a = quote ∧ b = quote then readLines quote cs.length (skipFirstLineEnd rest) else oneLine
  | _ => oneLine
where
  oneLine := if quote = '"' then readBasic (cs.length + 1) cs else readLiteral cs

end SecretScan.Toml
