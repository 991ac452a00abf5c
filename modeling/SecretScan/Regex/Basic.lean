import SecretScan.Regex.CharSet
import SecretScan.Text.Word

/-!
# Regular expressions

An expression is a tree over its leaves; the leaves of a `Regex` are sets of characters. A `Place`
is a gap between two characters of a text, and a `Look` is a condition on a place.
-/

namespace SecretScan

/-- Which edge of a word a place has to be. -/
inductive WordEdge where
  /-- A word begins or ends here. -/
  | boundary
  /-- No word begins or ends here. -/
  | interior
  | start
  | stop
  /-- No word character stands before. -/
  | startHalf
  /-- No word character stands after. -/
  | stopHalf
  deriving DecidableEq, Repr

/-- A condition on the characters around a place. -/
inductive Look where
  | textStart
  | textEnd
  | lineStart
  | lineEnd
  /-- As `lineStart`, for lines that end with a carriage return, a line feed or both. -/
  | anyLineStart
  | anyLineEnd
  | word (ascii : Bool) (edge : WordEdge)
  deriving DecidableEq, Repr

/-- A regular expression whose leaves carry `α`. A leaf matches one character; choices are tried in
order. -/
inductive Expr (α : Type) where
  | empty
  | leaf (a : α)
  | look (l : Look)
  | seq (r s : Expr α)
  /-- Tries `r`, then `s`. -/
  | alt (r s : Expr α)
  /-- One or more times `r`, as often as possible if `greedy`, as rarely as possible if not. -/
  | plus (greedy : Bool) (r : Expr α)
  deriving DecidableEq, Repr

/-- A regular expression over sets of characters. -/
abbrev Regex := Expr CharSet

/-- A gap in a text: the character before it, and the characters after it. -/
structure Place where
  before : Option Char
  rest : List Char
  deriving DecidableEq, Repr

namespace Place

/-- The character after the gap. -/
def next (p : Place) : Option Char := p.rest.head?

/-- The gap at the start of a text. -/
def start (text : List Char) : Place := ⟨none, text⟩

end Place

namespace Look

/-- Whether a neighbour is a word character. The ends of a text are no word characters. -/
def isWordAt (ascii : Bool) : Option Char → Bool
  | none => false
  | some c => if ascii then Word.isAsciiWord c else Word.isWord c

/-- Whether the condition holds at a place. -/
def holds (p : Place) : Look → Bool
  | textStart => p.before.isNone
  | textEnd => p.next.isNone
  | lineStart => p.before.isNone || p.before == some '\n'
  | lineEnd => p.next.isNone || p.next == some '\n'
  | anyLineStart => p.before.isNone || p.before == some '\n' ||
      (p.before == some '\r' && p.next != some '\n')
  | anyLineEnd => p.next.isNone || p.next == some '\r' ||
      (p.next == some '\n' && p.before != some '\r')
  | word ascii edge =>
    let left := isWordAt ascii p.before
    let right := isWordAt ascii p.next
    match edge with
    | .boundary => left != right
    | .interior => left == right
    | .start => !left && right
    | .stop => left && !right
    | .startHalf => !left
    | .stopHalf => !right

end Look

namespace Expr

variable {α : Type}

/-- `r` or nothing, `r` first if `greedy`. -/
def optional (greedy : Bool) (r : Expr α) : Expr α :=
  if greedy then alt r empty else alt empty r

/-- Any number of times `r`. -/
def star (greedy : Bool) (r : Expr α) : Expr α := optional greedy (plus greedy r)

/-- Expressions one after the other. -/
def concat : List (Expr α) → Expr α
  | [] => empty
  | [r] => r
  | r :: rest => seq r (concat rest)

/-- The first of several expressions that leads to a match. The list is not empty. -/
def choice : List (Expr α) → Expr α
  | [] => empty
  | [r] => r
  | r :: rest => alt r (choice rest)

/-- `n` times `r`, then `k`. -/
def times (r : Expr α) (k : Expr α) : Nat → Expr α
  | 0 => k
  | n + 1 => seq r (times r k n)

/-- At most `n` times `r`. -/
def atMost (greedy : Bool) (r : Expr α) : Nat → Expr α
  | 0 => empty
  | n + 1 => optional greedy (seq r (atMost greedy r n))

/-- From `least` to `most` times `r`; without `most` there is no upper bound. -/
def repeated (greedy : Bool) (least : Nat) (most : Option Nat) (r : Expr α) : Expr α :=
  match most with
  | none => match least with
    | 0 => star greedy r
    | n + 1 => times r (plus greedy r) n
  | some most => if most ≤ least then concat (List.replicate least r)
    else times r (atMost greedy r (most - least)) least

end Expr

end SecretScan
