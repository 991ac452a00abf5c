/-!
# Lines

A line feed ends a line, and one carriage return before it belongs to the end. `Line.split` keeps
the piece after the last line feed even if it is empty; `Line.terminated` does not count it then.
-/

namespace SecretScan.Line

variable {α : Type} [DecidableEq α]

/-- Puts one element before pieces: a separator starts a new piece, any other element goes to the
front of the first piece. -/
def extend (separator : α) (a : α) (pieces : List (List α)) : List (List α) :=
  if a = separator then [] :: pieces
  else match pieces with
    | [] => [[a]]
    | piece :: rest => (a :: piece) :: rest

/-- The pieces between separators. There is one more piece than there are separators. -/
def split (separator : α) (xs : List α) : List (List α) :=
  xs.foldr (extend separator) [[]]

/-- The pieces that end with a separator, and the rest if it is not empty. -/
def terminated (separator : α) (xs : List α) : List (List α) :=
  xs.foldr (extend separator) []

/-- Takes one `mark` off the end. -/
def dropFinal (mark : α) (xs : List α) : List α :=
  if xs.getLast? = some mark then xs.dropLast else xs

end SecretScan.Line
