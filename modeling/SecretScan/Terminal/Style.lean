/-!
# Styled text

On a terminal a piece of text may carry styles: each style is switched on by an escape sequence of
its own before the text, and all are switched off after it. Without colour the text stands alone.
-/

namespace SecretScan.Terminal

/-- The parameters of the sequences that switch on the parts of a style. -/
abbrev Style := List String

namespace Style

/-- Paths. -/
def accent : Style := ["36"]

/-- Line numbers and remarks. -/
def muted : Style := ["38;5;243"]

/-- Secrets. -/
def secret : Style := ["31", "1"]

/-- Ordinary text beside headings. -/
def secondary : Style := ["38;5;252"]

/-- Headings of tables. -/
def tableHeader : Style := ["37", "1", "7"]

/-- The sequence with a parameter. -/
def sequence (parameter : String) : List Char := '\x1b' :: '[' :: parameter.toList ++ ['m']

/-- A text in a style. -/
def apply (s : Style) (colour : Bool) (text : List Char) : List Char :=
  if colour then s.flatMap sequence ++ text ++ sequence "0" else text

end Style

end SecretScan.Terminal
