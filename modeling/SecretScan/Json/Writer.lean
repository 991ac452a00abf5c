import SecretScan.Json.Value

/-!
# Writing JSON

The text of a value over several lines: each item of an array and each field of an object stands on
a line of its own, indented by two blanks for each level.
-/

namespace SecretScan.Json

/-- A digit in base sixteen. -/
def hexDigit (n : Nat) : Char :=
  if n < 10 then Char.ofNat ('0'.toNat + n) else Char.ofNat ('a'.toNat + (n - 10))

/-- A character within a string. Quotes, backslashes and control characters below the blank are
escaped, and nothing else is. -/
def escapeChar (c : Char) : List Char :=
  if c = '"' then ['\\', '"']
  else if c = '\\' then ['\\', '\\']
  else if c = '\x08' then ['\\', 'b']
  else if c = '\x0c' then ['\\', 'f']
  else if c = '\n' then ['\\', 'n']
  else if c = '\r' then ['\\', 'r']
  else if c = '\t' then ['\\', 't']
  else if c.toNat < 0x20 then
    ['\\', 'u', '0', '0', hexDigit (c.toNat / 16), hexDigit (c.toNat % 16)]
  else [c]

/-- The text of a string. -/
def quote (s : String) : List Char := '"' :: s.toList.flatMap escapeChar ++ ['"']

/-- The start of a new line at a level. -/
def newLine (level : Nat) : List Char := '\n' :: List.replicate (2 * level) ' '

mutual

/-- The text of a value whose first line starts at a level. -/
def write (level : Nat) : Value → List Char
  | .number n => (toString n).toList
  | .string s => quote s
  | .array [] => ['[', ']']
  | .array (v :: rest) =>
    '[' :: newLine (level + 1) ++ write (level + 1) v ++ writeItems (level + 1) rest ++
      newLine level ++ [']']
  | .object [] => ['\x7b', '\x7d']
  | .object ((key, v) :: rest) =>
    '\x7b' :: newLine (level + 1) ++ quote key ++ [':', ' '] ++ write (level + 1) v ++
      writeFields (level + 1) rest ++ newLine level ++ ['\x7d']

/-- The text of the items of an array after the first. -/
def writeItems (level : Nat) : List Value → List Char
  | [] => []
  | v :: rest => ',' :: newLine level ++ write level v ++ writeItems level rest

/-- The text of the fields of an object after the first. -/
def writeFields (level : Nat) : List (String × Value) → List Char
  | [] => []
  | (key, v) :: rest =>
    ',' :: newLine level ++ quote key ++ [':', ' '] ++ write level v ++ writeFields level rest

end

/-- The text of a document. -/
def Value.text (v : Value) : List Char := write 0 v

end SecretScan.Json
