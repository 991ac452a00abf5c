import SecretScan.Text.Line

/-!
# Paths

A path is a text of parts between slashes; what is not Unicode is no path here. Two spellings are the
same path if they have the same parts: repeated slashes, a slash at the end and inner single dots do
not count. Paths are ordered by their parts, not by their text, so `a/z` comes before `a.py`.
-/

namespace SecretScan

/-- A path as it was spelled. -/
structure Path where
  text : String
  deriving DecidableEq, Repr, Inhabited

namespace Path

/-- A part of a path. -/
inductive Part where
  | root
  /-- A single dot at the start of a relative path. -/
  | current
  | parent
  | name (n : List Char)
  deriving DecidableEq, Repr

/-- A part as a list of numbers, which are compared one after the other: the kinds of parts come in
the order of their constructors, and names are compared by their code points. -/
def Part.key : Part → List Nat
  | .root => [0]
  | .current => [1]
  | .parent => [2]
  | .name n => 3 :: n.map Char.toNat

/-- The pieces of a path between its slashes. -/
def pieces (p : Path) : List (List Char) := Line.split '/' p.text.toList

/-- The part that a piece stands for, if it is not the first piece. -/
def inner? (piece : List Char) : Option Part :=
  if piece = [] ∨ piece = ['.'] then none
  else if piece = ['.', '.'] then some .parent
  else some (.name piece)

/-- The parts of a path. -/
def parts (p : Path) : List Part :=
  match p.pieces with
  | [] => []
  | first :: rest =>
    let start := if first = [] then if rest = [] then [] else [.root]
      else if first = ['.'] then [.current]
      else (inner? first).toList
    start ++ rest.filterMap inner?

/-- The key by which paths are compared. -/
def key (p : Path) : List (List Nat) := p.parts.map Part.key

/-- Whether two spellings are the same path. -/
def same (p q : Path) : Bool := p.key == q.key

/-- Whether one list of numbers comes before another. -/
def numbersBefore (ms ns : List Nat) : Bool := ms.lex ns fun m n => decide (m < n)

/-- Whether `p` comes before `q`. -/
def lt (p q : Path) : Bool := p.key.lex q.key numbersBefore

/-- Whether `p` comes before `q` or is the same path. -/
def le (p q : Path) : Bool := !q.lt p

/-- Whether a path starts at the top of all files. -/
def isAbsolute (p : Path) : Bool := p.text.toList.head? == some '/'

/-- The path `q` as seen from `p`. -/
def join (p q : Path) : Path :=
  if q.isAbsolute then q
  else if p.text.toList.getLast?.getD '/' = '/' then ⟨p.text ++ q.text⟩
  else ⟨p.text ++ "/" ++ q.text⟩

/-- The path of names. -/
def ofNames (names : List String) : Path := ⟨String.intercalate "/" names⟩

end Path

end SecretScan
