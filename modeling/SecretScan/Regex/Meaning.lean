import SecretScan.Regex.Basic

/-!
# What an expression matches

The meaning of a regular expression by exhaustive trial. `Regex.first` tries the ways in which an
expression can match from a place, in order of preference, and returns the first answer of what
comes after. `Regex.leftmost` is the search of a text for the leftmost match, which is the preferred
one among those that start there.

A repetition tries another round only after a round that took a character; a later round that takes
none is given up.
-/

namespace SecretScan.Regex

variable {β : Type}

/-- The rounds of a repetition that come after a round that took a character. `body after` is one
round, followed by `after`. -/
def moreRounds (greedy : Bool) (body : (Place → Option β) → Place → Option β)
    (after : Place → Option β) (p : Place) : Option β :=
  let again := body
    (fun q => if q.rest.length < p.rest.length then moreRounds greedy body after q else none) p
  if greedy then again <|> after p else after p <|> again
termination_by p.rest.length

/-- The answer of `after` for the first way to match the expression from `p` that has one. -/
def first : Regex → (Place → Option β) → Place → Option β
  | .empty, after, p => after p
  | .leaf s, after, p => match p.rest with
    | [] => none
    | c :: rest => if s.has c then after ⟨some c, rest⟩ else none
  | .look l, after, p => if l.holds p then after p else none
  | .seq r s, after, p => first r (first s after) p
  | .alt r s, after, p => first r after p <|> first s after p
  | .plus greedy r, after, p =>
    first r (fun q => if q.rest.length < p.rest.length
      then moreRounds greedy (first r) after q else after q) p

/-- The length of the preferred match from a place. -/
def matchAt (r : Regex) (p : Place) : Option Nat :=
  first r (fun q => some (p.rest.length - q.rest.length)) p

/-- Start and length of the preferred match with the smallest start at `p` or after it. `at_` is
the position of `p`. -/
def leftmostFrom (r : Regex) (at_ : Nat) (before : Option Char) (rest : List Char) :
    Option (Nat × Nat) :=
  match matchAt r ⟨before, rest⟩ with
  | some length => some (at_, length)
  | none => match rest with
    | [] => none
    | c :: rest => leftmostFrom r (at_ + 1) (some c) rest

/-- Start and length of the leftmost match in a text. -/
def leftmost (r : Regex) (text : List Char) : Option (Nat × Nat) :=
  leftmostFrom r 0 none text

end SecretScan.Regex
