import SecretScan.Regex.Reader.Bounds
import SecretScan.Regex.Reader.Bracket
import SecretScan.Regex.Reader.Group

/-!
# Reading the text of an expression

The reader takes one part of the text after the other: a character, an escape, a bracket, the sign
of a repetition, or a sign of structure. Groups that are open are kept on a stack, so what a part
means depends on the flags and on the innermost open group only. `Regex.read` is the whole reader.
-/

namespace SecretScan.Regex

/-- How deep the parts of an expression may nest. -/
def maxDepth : Nat := 250

/-- How many bytes a compiled expression may take. What it takes is estimated (`Reader.Part.room`), so
an expression with a size close to this bound may be judged otherwise when it is compiled. -/
def maxRoom : Nat := 10485760

namespace Reader

/-- A part of an expression that has been read: what it matches, how deep it nests, about how many
bytes it takes when compiled, and whether a repetition may follow it. -/
structure Part where
  regex : Regex
  depth : Nat
  /-- An estimate from the ranges of characters and the copies of repeated parts; no automaton is
  built. -/
  room : Nat
  repeatable : Bool := true
  deriving Repr

/-- The bytes of one state of a compiled expression. -/
def stateRoom : Nat := 32

namespace Part

/-- A part that matches one character. -/
def ofSet (s : CharSet) (depth : Nat) : Part := ⟨.leaf s, depth, stateRoom + s.room, true⟩

/-- A part that matches at a place. -/
def ofLook (l : Look) : Part := ⟨.look l, 0, stateRoom, true⟩

/-- A part that only changes flags. -/
def ofFlags : Part := ⟨.empty, 0, 0, false⟩

/-- Parts one after the other, of which the last comes first. -/
def concat (parts : List Part) : Part :=
  ⟨.concat (parts.reverse.map Part.regex),
    nesting (parts.map Part.depth),
    if parts.isEmpty then stateRoom else (parts.map Part.room).foldr (· + ·) 0, true⟩

/-- Parts to choose from, of which the last comes first. -/
def choice (parts : List Part) : Part :=
  ⟨.choice (parts.reverse.map Part.regex),
    nesting (parts.map Part.depth),
    (parts.map Part.room).foldr (· + ·) 0 + if parts.length ≤ 1 then 0 else 2 * stateRoom, true⟩

/-- A part between parentheses. -/
def group (p : Part) : Part := { p with depth := p.depth + 1, room := p.room + 2 * stateRoom }

/-- A part repeated. One that would take too much room is not unfolded; its room alone decides what
becomes of the expression. -/
def repeated (greedy : Bool) (b : Bounds) (p : Part) : Part :=
  let copies := (b.most.getD (b.least + 1)).max 1
  let room := match b.most with
    | some 0 => stateRoom
    | some most => b.least * p.room + (most - b.least) * (p.room + stateRoom) + stateRoom
    | none => copies * (p.room + stateRoom)
  ⟨if maxRoom < room then .empty else p.regex.repeated greedy b.least b.most, p.depth + 1, room,
    true⟩

end Part

/-- A group that is open: the branches before the last `|`, and the parts after it; of both, the
last comes first. -/
structure OpenGroup where
  branches : List Part := []
  parts : List Part := []
  deriving Repr

namespace OpenGroup

/-- Adds a part. -/
def push (g : OpenGroup) (p : Part) : OpenGroup := { g with parts := p :: g.parts }

/-- Starts a new branch. -/
def nextBranch (g : OpenGroup) : OpenGroup := ⟨Part.concat g.parts :: g.branches, []⟩

/-- What the group matches. -/
def close (g : OpenGroup) : Part :=
  match g.branches with
  | [] => Part.concat g.parts
  | branches => Part.choice (Part.concat g.parts :: branches)

end OpenGroup

/-- What the reader knows between two parts: the flags in force, the innermost open group, the open
groups around it with the flags that hold again after it, and the names of groups. -/
structure State where
  flags : Flags := {}
  group : OpenGroup := {}
  outer : List (OpenGroup × Flags) := []
  names : List (List Char) := []
  deriving Repr

namespace State

/-- Adds a part to the innermost open group. -/
def push (s : State) (p : Part) : State := { s with group := s.group.push p }

/-- Opens a group. -/
def openGroup (s : State) (inside : Flags) : State :=
  { s with flags := inside, group := {}, outer := (s.group, s.flags) :: s.outer }

/-- Does what an opening parenthesis asks for. -/
def start (s : State) : Opening → Except ReadError State
  | .numbered => .ok (s.openGroup s.flags)
  | .named name =>
    if s.names.contains name then .error .duplicateGroupName
    else .ok { s.openGroup s.flags with names := name :: s.names }
  | .flagged inside => .ok (s.openGroup inside)
  | .setting flags => .ok { s.push .ofFlags with flags }

/-- Closes the innermost group. -/
def finish (s : State) : Except ReadError State :=
  match s.outer with
  | [] => .error .unopenedGroup
  | (g, flags) :: outer =>
    .ok { s with flags, group := g.push s.group.close.group, outer }

/-- Repeats the last part. -/
def repeatLast (s : State) (b : Bounds) (lazily : Bool) : Except ReadError State :=
  match s.group.parts with
  | [] => .error .nothingToRepeat
  | p :: parts =>
    if p.repeatable then
      .ok { s with group := { s.group with
        parts := p.repeated (lazily == s.flags.swapGreed) b :: parts } }
    else .error .nothingToRepeat

end State

/-- What a dot matches. -/
def dot (f : Flags) : Except ReadError CharSet :=
  if !f.unicode then .error .needsUnicode
  else if f.dotMatchesAll then .ok .all
  else if f.anyLineEnd then .ok (.compl (.union (.single '\r') (.single '\n')))
  else .ok (.compl (.single '\n'))

/-- What a caret stands for. -/
def caret (f : Flags) : Look :=
  if f.multiLine then if f.anyLineEnd then .anyLineStart else .lineStart else .textStart

/-- What a dollar sign stands for. -/
def dollar (f : Flags) : Look :=
  if f.multiLine then if f.anyLineEnd then .anyLineEnd else .lineEnd else .textEnd

/-- The part that an escape stands for outside brackets. -/
def escaped (f : Flags) : Escape → Except ReadError Part
  | .char c byte =>
    if byte && !f.unicode && 0x80 ≤ c.toNat then .error .needsUnicode
    else .ok (.ofSet (f.charSet c) 0)
  | .textStart => .ok (.ofLook .textStart)
  | .textEnd => .ok (.ofLook .textEnd)
  | .edge e => .ok (.ofLook (.word (!f.unicode) e))
  | .letter k negated => return .ofSet (← f.negate negated (k.set f.unicode)) 0
  | .property name value negated => return .ofSet (← f.propertySet name value negated) 0

/-- Reads one part of the text, which starts with `c`. -/
def readPart (s : State) (c : Char) (rest : List Char) : Except ReadError (State × List Char) := do
  match c with
  | '(' =>
    let (opening, rest) ← readOpening s.flags rest
    return (← s.start opening, rest)
  | ')' => return (← s.finish, rest)
  | '|' => return ({ s with group := s.group.nextBranch }, rest)
  | '?' =>
    let (lazily, rest) := readLazy rest
    return (← s.repeatLast ⟨0, some 1⟩ lazily, rest)
  | '*' =>
    let (lazily, rest) := readLazy rest
    return (← s.repeatLast ⟨0, none⟩ lazily, rest)
  | '+' =>
    let (lazily, rest) := readLazy rest
    return (← s.repeatLast ⟨1, none⟩ lazily, rest)
  | '{' =>
    let (bounds, rest) ← readBounds s.flags.verbose rest
    let (lazily, rest) := readLazy (skip s.flags.verbose rest)
    return (← s.repeatLast bounds lazily, rest)
  | '[' =>
    let (m, rest) ← readBracket s.flags rest
    return (s.push (.ofSet m.set m.depth), rest)
  | '\\' =>
    let (escape, rest) ← readEscape s.flags.verbose rest
    return (s.push (← escaped s.flags escape), rest)
  | '.' => return (s.push (.ofSet (← dot s.flags) 0), rest)
  | '^' => return (s.push (.ofLook (caret s.flags)), rest)
  | '$' => return (s.push (.ofLook (dollar s.flags)), rest)
  | c => return (s.push (.ofSet (s.flags.charSet c) 0), rest)

/-- Reads the rest of a text. Every part takes a character, so `fuel` need not exceed the length of
the text by more than one. -/
def readFrom (fuel : Nat) (s : State) (cs : List Char) : Except ReadError State :=
  match fuel with
  | 0 => .ok s
  | fuel + 1 => match skip s.flags.verbose cs with
    | [] => .ok s
    | c :: rest => do
      let (s, rest) ← readPart s c rest
      readFrom fuel s rest

/-- What a text matches that has been read to its end. -/
def State.regex (s : State) : Except ReadError Regex :=
  if !s.outer.isEmpty then .error .unclosedGroup
  else
    let whole := s.group.close
    if maxDepth < whole.depth then .error .tooDeep
    else if maxRoom < whole.room then .error .tooLarge
    else .ok whole.regex

end Reader

/-- The expression that a text stands for. -/
def read (text : List Char) : Except ReadError Regex := do
  (← Reader.readFrom (text.length + 1) {} text).regex

end SecretScan.Regex
