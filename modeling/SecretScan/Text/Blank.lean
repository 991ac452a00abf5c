import SecretScan.Text.CodeRanges

/-!
# Blanks

White space is what Unicode gives the property `White_Space`. `Blank.trim` takes it off both ends
of a text.
-/

namespace SecretScan

/-- The code points with the property `White_Space`. -/
def Blank.ranges : CodeRanges :=
  [(0x9, 0xd), (0x20, 0x20), (0x85, 0x85), (0xa0, 0xa0), (0x1680, 0x1680), (0x2000, 0x200a),
   (0x2028, 0x2029), (0x202f, 0x202f), (0x205f, 0x205f), (0x3000, 0x3000)]

/-- White space, in the sense of the Unicode standard. -/
def isBlank (c : Char) : Bool := Blank.ranges.covers c.toNat

namespace Blank

/-- A text without the white space it starts with. -/
def trimStart (cs : List Char) : List Char := cs.dropWhile isBlank

/-- A text without the white space it ends with. -/
def trimEnd (cs : List Char) : List Char := (cs.reverse.dropWhile isBlank).reverse

/-- A text without the white space it starts and ends with. -/
def trim (s : String) : String := String.ofList (trimEnd (trimStart s.toList))

end Blank

end SecretScan
