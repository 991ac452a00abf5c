import SecretScan.Regex.Basic

/-!
# What a text leaves of an expression

A leaf none of whose characters occurs in a text matches nowhere in it, and neither does anything
that needs such a leaf. `Regex.prune` takes these parts away before a search. What remains has the
same matches in that text and is mostly much smaller.
-/

namespace SecretScan.Regex

/-- The expression without the choices that cannot match anywhere in `text`, as they need a
character which does not occur there. There is nothing left if no choice can match. -/
def prune (text : List Char) : Regex → Option Regex
  | .empty => some .empty
  | .leaf s => if text.any s.has then some (.leaf s) else none
  | .look l => some (.look l)
  | .seq r s => match prune text r with
    | some r => (prune text s).map (.seq r)
    | none => none
  | .alt r s => match prune text r, prune text s with
    | some r, some s => some (.alt r s)
    | some r, none => some r
    | none, s => s
  | .plus greedy r => (prune text r).map (.plus greedy)

end SecretScan.Regex
