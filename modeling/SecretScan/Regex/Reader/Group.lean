import SecretScan.Regex.Reader.Basic
import SecretScan.Text.Property

/-!
# Openings of groups

What follows an opening parenthesis: nothing (a numbered group), a name, flags for the group, or
flags alone that hold from there on.
-/

namespace SecretScan.Regex

/-- What an opening parenthesis starts. -/
inductive Opening where
  | numbered
  | named (name : List Char)
  /-- A group of which the flags are given. -/
  | flagged (flags : Flags)
  /-- No group: the flags change for the rest of the enclosing group. -/
  | setting (flags : Flags)
  deriving DecidableEq, Repr

namespace Reader

/-- Reads flags up to a colon or a closing parenthesis. `seen` are the letters read so far, and
`dangling` says that the last character was the minus sign. No letter may occur twice, and the minus
sign only once and before a letter. -/
def readFlags (f : Flags) (seen : List Char) (negated dangling : Bool) :
    List Char → Except ReadError (Opening × List Char)
  | [] => .error .badFlags
  | c :: rest =>
    if c = ':' then if dangling then .error .badFlags else .ok (.flagged f, rest)
    else if c = ')' then
      if dangling then .error .badFlags
      else if seen.isEmpty then .error .nothingToRepeat
      else .ok (.setting f, rest)
    else if c = '-' then
      if negated then .error .badFlags else readFlags f seen true true rest
    else if seen.contains c then .error .badFlags
    else match f.set? c !negated with
      | some f => readFlags f (c :: seen) negated false rest
      | none => .error .badFlags

/-- Whether a letter of any script. -/
def isLetter (c : Char) : Bool :=
  if c.toNat < 0x80 then c.isAlpha else Property.holds "alphabetic" c

/-- Whether a sign for a number in any script. -/
def isNumeric (c : Char) : Bool :=
  if c.toNat < 0x80 then c.isDigit
  else ["nd", "nl", "no"].any fun name =>
    ((Property.lookup? Property.categories name).getD []).covers c.toNat

/-- Whether a character may start the name of a group. -/
def isNameStart (c : Char) : Bool := c == '_' || isLetter c

/-- Whether a character may stand in the name of a group after its start. -/
def isNameChar (c : Char) : Bool :=
  c == '_' || c == '.' || c == '[' || c == ']' || isLetter c || isNumeric c

/-- Reads the name of a group up to the closing angle bracket. -/
def readName (cs : List Char) : Except ReadError (Opening × List Char) :=
  match cs.takeWhile (· != '>'), cs.dropWhile (· != '>') with
  | c :: name, _ :: rest =>
    if isNameStart c && name.all isNameChar then .ok (.named (c :: name), rest)
    else .error .badGroupName
  | _, _ => .error .badGroupName

/-- Reads what follows an opening parenthesis. -/
def readOpening (f : Flags) (cs : List Char) : Except ReadError (Opening × List Char) :=
  match skip f.verbose cs with
  | '?' :: 'P' :: '<' :: rest => readName rest
  | '?' :: '<' :: rest => readName rest
  | '?' :: rest => readFlags f [] false false rest
  | rest => .ok (.numbered, rest)

end Reader

end SecretScan.Regex
