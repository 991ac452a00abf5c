import SecretScan.Regex.Prune

/-!
# Searching a text

A text is searched from its last place to its first. Each leaf of the expression is marked with the
answer of what follows that leaf, as seen from the place to the right; one step computes from these
marks the answers at the next place to the left, and the new marks. An answer is the number of
characters that the preferred match leaves over. The work grows with the product of the size of the
expression and the length of the text, and the marks hold what trying all ways would compute over
and over.

Two things keep the work small. Before the search, what the text cannot match is pruned from the
expression; and a part whose leaves all lack an answer stays as it is until one comes from its
right.
-/

namespace SecretScan.Regex

/-- Whether the expression can match at a place without taking a character. -/
def emptyAt (p : Place) : Regex → Bool
  | .empty => true
  | .leaf _ => false
  | .look l => l.holds p
  | .seq r s => emptyAt p r && emptyAt p s
  | .alt r s => emptyAt p r || emptyAt p s
  | .plus _ r => emptyAt p r

/-- An expression whose leaves may know the answer of what follows them one place to the right. -/
inductive Marked where
  /-- An expression none of whose leaves has an answer. -/
  | idle (r : Regex)
  | leaf (s : CharSet) (answer : Nat)
  | seq (r s : Marked)
  | alt (r s : Marked)
  | plus (greedy : Bool) (r : Marked)
  deriving Repr

namespace Marked

/-- One expression after the other. -/
def after : Marked → Marked → Marked
  | idle r, idle s => idle (.seq r s)
  | r, s => seq r s

/-- One expression or the other. -/
def orElse : Marked → Marked → Marked
  | idle r, idle s => idle (.alt r s)
  | r, s => alt r s

/-- An expression one or more times. -/
def rounds (greedy : Bool) : Marked → Marked
  | idle r => idle (.plus greedy r)
  | r => plus greedy r

/-- A leaf with its answer, if there is one. -/
def ofLeaf (s : CharSet) : Option Nat → Marked
  | some n => leaf s n
  | none => idle (.leaf s)

/-- The marks of an expression whose leaves had no answers, if `n` is the answer at a place of what
follows it. -/
def wake (p : Place) (n : Nat) : Regex → Marked
  | .leaf s => leaf s n
  | .seq r s => (if emptyAt p s then wake p n r else idle r).after (wake p n s)
  | .alt r s => (wake p n r).orElse (wake p n s)
  | .plus greedy r => (wake p n r).rounds greedy
  | r => idle r

/-- The answer at a place, if `after` is the answer there of what follows the expression. -/
def value (p : Place) : Marked → Option Nat → Option Nat
  | idle _, none => none
  | idle r, some n => if emptyAt p r then some n else none
  | leaf s n, _ => match p.rest with
    | c :: _ => if s.has c then some n else none
    | [] => none
  | seq r s, after => value p r (value p s after)
  | alt r s, after => value p r after <|> value p s after
  | plus _ r, after => value p r after

/-- The answer of a later round of a repetition: `again` is the answer of one more round, `after`
that of what follows the repetition. -/
def loop (greedy : Bool) (again after : Option Nat) : Option Nat :=
  if greedy then again <|> after else after <|> again

/-- The answer at a place, and the expression marked with the answers there. -/
def step (p : Place) : Marked → Option Nat → Option Nat × Marked
  | idle r, none => (none, idle r)
  | idle r, some n => (value p (idle r) (some n), wake p n r)
  | leaf s n, after => (value p (leaf s n) after, ofLeaf s after)
  | seq r s, after =>
    let (middle, s) := step p s after
    let (answer, r) := step p r middle
    (answer, r.after s)
  | alt r s, after =>
    let (left, r) := step p r after
    let (right, s) := step p s after
    (left <|> right, r.orElse s)
  | plus greedy r, after =>
    let later := loop greedy (value p r none) after
    (value p r after, (step p r later).2.rounds greedy)

end Marked

/-- What is known after some places at the end of a text have been seen: how many characters lie to
their right, the marks, and the match with the smallest start, as the numbers of characters after
its start and after its end. -/
structure Progress where
  remaining : Nat
  marked : Marked
  found : Option (Nat × Nat)

/-- Looks at the next place to the left. -/
def Progress.look (s : Progress) (p : Place) : Progress :=
  let (answer, marked) := s.marked.step p (some s.remaining)
  ⟨s.remaining + 1, marked, match answer with
    | some n => some (s.remaining, n)
    | none => s.found⟩

/-- The places of a text from the last to the first, put before `acc`. -/
def placesFromEnd (acc : List Place) (before : Option Char) : List Char → List Place
  | [] => ⟨before, []⟩ :: acc
  | c :: rest => placesFromEnd (⟨before, c :: rest⟩ :: acc) (some c) rest

/-- Start and length of the leftmost match in a text, from the marks of the whole expression. -/
def searchMarked (r : Regex) (text : List Char) : Option (Nat × Nat) :=
  let s := (placesFromEnd [] none text).foldl Progress.look ⟨0, .idle r, none⟩
  s.found.map fun (start, stop) => (s.remaining - 1 - start, start - stop)

/-- Start and length of the leftmost match in a text. -/
def search (r : Regex) (text : List Char) : Option (Nat × Nat) :=
  match prune text r with
  | some r => searchMarked r text
  | none => none

/-- Whether the expression matches somewhere in a text. -/
def matchesIn (r : Regex) (text : List Char) : Bool := (search r text).isSome

/-- The text of the leftmost match. -/
def find (r : Regex) (text : List Char) : Option (List Char) :=
  (search r text).map fun (start, length) => (text.drop start).take length

end SecretScan.Regex
