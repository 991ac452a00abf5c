import SecretScan.Regex.Reader.Escape

/-!
# Bracket expressions

A set of characters written between brackets: single characters, ranges, escapes, named ASCII
classes, further brackets, and the operations `&&`, `--` and `~~`, which are applied from left to
right. Brackets that are open are kept on a stack.
-/

namespace SecretScan.Regex

/-- The named ASCII classes, which are written `[:name:]` inside brackets. -/
def asciiClass? (name : String) : Option CharSet :=
  (classes.find? (·.1 == name)).map (.table ·.2)
where
  classes : List (String × CodeRanges) :=
    [("alnum", [(0x30, 0x39), (0x41, 0x5a), (0x61, 0x7a)]),
     ("alpha", [(0x41, 0x5a), (0x61, 0x7a)]),
     ("ascii", [(0x0, 0x7f)]),
     ("blank", [(0x9, 0x9), (0x20, 0x20)]),
     ("cntrl", [(0x0, 0x1f), (0x7f, 0x7f)]),
     ("digit", [(0x30, 0x39)]),
     ("graph", [(0x21, 0x7e)]),
     ("lower", [(0x61, 0x7a)]),
     ("print", [(0x20, 0x7e)]),
     ("punct", [(0x21, 0x2f), (0x3a, 0x40), (0x5b, 0x60), (0x7b, 0x7e)]),
     ("space", [(0x9, 0xd), (0x20, 0x20)]),
     ("upper", [(0x41, 0x5a)]),
     ("word", [(0x30, 0x39), (0x41, 0x5a), (0x5f, 0x5f), (0x61, 0x7a)]),
     ("xdigit", [(0x30, 0x39), (0x41, 0x46), (0x61, 0x66)])]

namespace Reader

/-- How deep something nests that is made of parts which nest as deep as given. A single part is
not nested deeper. -/
def nesting : List Nat → Nat
  | [] => 0
  | [d] => d
  | ds => ds.foldl max 0 + 1

/-- A part of a bracket expression: its set, and how deep it nests. -/
structure Member where
  set : CharSet
  depth : Nat
  deriving Inhabited

/-- The union of members, of which the last comes first. -/
def Member.union (members : List Member) : Member :=
  ⟨.unions (members.reverse.map Member.set),
    nesting (members.map Member.depth)⟩

/-- The operations on sets. -/
inductive SetOp where
  | inter
  | diff
  | symmDiff
  deriving DecidableEq, Repr

/-- Applies an operation. Both sides are closed under case first if case is ignored. -/
def SetOp.apply (f : Flags) (op : SetOp) (a b : Member) : Member :=
  let s := f.fold a.set
  let t := f.fold b.set
  ⟨match op with
    | .inter => .inter s t
    | .diff => .diff s t
    | .symmDiff => .symmDiff s t, max a.depth b.depth + 1⟩

/-- A bracket that is open: whether it is negated, an operation that waits for its right side, and
the members read since then, the last one first. -/
structure OpenBracket where
  negated : Bool
  waiting : Option (SetOp × Member)
  members : List Member

namespace OpenBracket

/-- Adds a member. -/
def push (b : OpenBracket) (m : Member) : OpenBracket := { b with members := m :: b.members }

/-- What has been read so far as one member. -/
def content (f : Flags) (b : OpenBracket) : Member :=
  match b.waiting with
  | none => Member.union b.members
  | some (op, left) => op.apply f left (Member.union b.members)

/-- Starts the right side of an operation. -/
def operate (f : Flags) (b : OpenBracket) (op : SetOp) : OpenBracket :=
  ⟨b.negated, some (op, b.content f), []⟩

/-- The bracket as a member of what surrounds it. -/
def close (f : Flags) (b : OpenBracket) : Except ReadError Member := do
  let content := b.content f
  let set ← f.negate b.negated (f.fold content.set)
  return ⟨set, content.depth + 1⟩

end OpenBracket

/-- Reads hyphens at the start of a bracket, which stand for themselves. -/
def readHyphens (verbose : Bool) (b : OpenBracket) : Nat → List Char → OpenBracket × List Char
  | 0, cs => (b, cs)
  | n + 1, cs => match cs with
    | '-' :: rest => readHyphens verbose (b.push ⟨.single '-', 0⟩) n (skip verbose rest)
    | _ => (b, cs)

/-- Reads what follows an opening bracket up to where members start: a caret, hyphens, and, if
nothing else came before it, a closing bracket that stands for itself. -/
def openBracket (verbose : Bool) (cs : List Char) : OpenBracket × List Char :=
  let cs := skip verbose cs
  let (negated, cs) := match cs with
    | '^' :: rest => (true, skip verbose rest)
    | _ => (false, cs)
  let (b, cs) := readHyphens verbose ⟨negated, none, []⟩ cs.length cs
  match b.members, cs with
  | [], ']' :: rest => (b.push ⟨.single ']', 0⟩, skip verbose rest)
  | _, _ => (b, cs)

/-- Reads what follows an opening bracket as a named ASCII class, if it is one. -/
def asciiClassHere? (cs : List Char) : Option (CharSet × Bool × List Char) :=
  match cs with
  | ':' :: cs =>
    let (negated, cs) := match cs with
      | '^' :: rest => (true, rest)
      | _ => (false, cs)
    match cs.dropWhile (· != ':') with
    | ':' :: ']' :: rest =>
      (asciiClass? (String.ofList (cs.takeWhile (· != ':')))).map (·, negated, rest)
    | _ => none
  | _ => none

/-- One end of a range, or a set. -/
inductive Atom where
  | char (c : Char)
  | set (s : CharSet)

/-- Reads one character or escape inside a bracket. Conditions on a place are no members. -/
def readAtom (f : Flags) : List Char → Except ReadError (Atom × List Char)
  | [] => .error .unclosedBracket
  | '\\' :: cs => do
    let (escape, rest) ← readEscape f.verbose cs
    match escape with
    | .char c _ => literal c rest
    | .letter k negated => return (.set (← f.negate negated (k.set f.unicode)), rest)
    | .property name value negated =>
      return (.set (← f.propertySet name value negated), rest)
    | .textStart | .textEnd | .edge _ => .error .badEscape
  | c :: rest => literal c rest
where
  literal (c : Char) (rest : List Char) : Except ReadError (Atom × List Char) :=
    if f.unicode || c.toNat < 0x80 then .ok (.char c, rest) else .error .needsUnicode

/-- Reads one member of a bracket: an atom, or a range between two characters. A `-` before a
closing bracket or a second `-` makes no range. -/
def readMember (f : Flags) (cs : List Char) : Except ReadError (Member × List Char) := do
  let (first, rest) ← readAtom f cs
  match skip f.verbose rest with
  | [] => .error .unclosedBracket
  | '-' :: rest' =>
    let ahead := peek f.verbose rest'
    if ahead == some ']' || ahead == some '-' then return (⟨alone first, 0⟩, '-' :: rest')
    else
      let (second, rest) ← readAtom f (skip f.verbose rest')
      match first, second with
      | .char lo, .char hi =>
        if lo ≤ hi then return (⟨.range lo.toNat hi.toNat, 0⟩, rest) else .error .badRange
      | _, _ => .error .badRange
  | rest => return (⟨alone first, 0⟩, rest)
where
  alone : Atom → CharSet
    | .char c => .single c
    | .set s => s

/-- Reads a bracket expression whose outermost bracket is the last of `outer`, or `inner` if there
are no others. Every round takes a character, so `fuel` need not exceed the length of the text. -/
def readBracketFrom (f : Flags) (fuel : Nat) (inner : OpenBracket) (outer : List OpenBracket)
    (cs : List Char) : Except ReadError (Member × List Char) :=
  match fuel with
  | 0 => .error .unclosedBracket
  | fuel + 1 => match skip f.verbose cs with
    | [] => .error .unclosedBracket
    | '[' :: rest => match asciiClassHere? rest with
      | some (s, negated, rest) => do
        let set ← f.negate negated (f.fold s)
        readBracketFrom f fuel (inner.push ⟨set, 0⟩) outer rest
      | none =>
        let (b, rest) := openBracket f.verbose rest
        readBracketFrom f fuel b (inner :: outer) rest
    | ']' :: rest => do
      let closed ← inner.close f
      match outer with
      | [] => return (closed, rest)
      | b :: outer => readBracketFrom f fuel (b.push closed) outer rest
    | '&' :: '&' :: rest => readBracketFrom f fuel (inner.operate f .inter) outer rest
    | '-' :: '-' :: rest => readBracketFrom f fuel (inner.operate f .diff) outer rest
    | '~' :: '~' :: rest => readBracketFrom f fuel (inner.operate f .symmDiff) outer rest
    | cs => do
      let (m, rest) ← readMember f cs
      readBracketFrom f fuel (inner.push m) outer rest

/-- Reads a bracket expression after its opening bracket. -/
def readBracket (f : Flags) (cs : List Char) : Except ReadError (Member × List Char) :=
  let (b, rest) := openBracket f.verbose cs
  readBracketFrom f (cs.length + 1) b [] rest

end Reader

end SecretScan.Regex
