import SecretScan.Text.CodeRanges
import SecretScan.Text.Property.Age
import SecretScan.Text.Property.Binary
import SecretScan.Text.Property.Category
import SecretScan.Text.Property.GraphemeBreak
import SecretScan.Text.Property.Script
import SecretScan.Text.Property.ScriptExtension
import SecretScan.Text.Property.SentenceBreak
import SecretScan.Text.Property.WordBreak

/-!
# Properties by name

How the name of a Unicode property, or the name and a value of it, leads to the code points that
have it. Names are compared loosely: without regard to case, blanks, `_`, `-` and a leading `is`.
-/

namespace SecretScan.Property

/-- A family of named sets of code points, each set packed. -/
abbrev Table := List (List String × List String)

/-- The code points listed under a loose name. -/
def lookup? (table : Table) (name : String) : Option CodeRanges :=
  (table.find? (·.1.contains name)).map (CodeRanges.unpack ·.2)

/-- Whether `c` has the binary property with the loose name `name`. -/
def holds (name : String) (c : Char) : Bool :=
  match lookup? binaries name with
  | some ranges => ranges.covers c.toNat
  | none => false

/-- The spelling under which names are compared. The abbreviation `isc` is a name of its own and not
a spelling of `c`. -/
def looseName (name : String) : String :=
  match name.toList with
  | i :: s :: rest =>
    if i.toLower = 'i' && s.toLower = 's' then
      if fold rest = ['c'] then "isc" else String.ofList (fold rest)
    else String.ofList (fold (i :: s :: rest))
  | cs => String.ofList (fold cs)
where
  fold (cs : List Char) : List Char :=
    (cs.filter fun c => c.toNat < 0x80 && c != ' ' && c != '_' && c != '-').map Char.toLower

/-- The basic categories that a group of categories unites, by the group's loose name. -/
def categoryGroups : List (List String × List String) :=
  [(["lc", "casedletter"], ["lu", "ll", "lt"]),
   (["l", "letter"], ["lu", "ll", "lt", "lm", "lo"]),
   (["m", "mark", "combiningmark"], ["mn", "mc", "me"]),
   (["n", "number"], ["nd", "nl", "no"]),
   (["p", "punctuation", "punct"], ["pc", "pd", "ps", "pe", "pi", "pf", "po"]),
   (["s", "symbol"], ["sm", "sc", "sk", "so"]),
   (["z", "separator"], ["zs", "zl", "zp"]),
   (["c", "other"], ["cc", "cf", "co", "cn"]),
   (["assigned"], ["lu", "ll", "lt", "lm", "lo", "mn", "mc", "me", "nd", "nl", "no", "pc", "pd",
     "ps", "pe", "pi", "pf", "po", "sm", "sc", "sk", "so", "zs", "zl", "zp", "cc", "cf", "co"])]

/-- The code points of a general category or of a group of them, as the union of tables. -/
def category? (name : String) : Option (List CodeRanges) :=
  if name = "any" then some [[(0, 0x10ffff)]]
  else if name = "ascii" then some [[(0, 0x7f)]]
  else match categoryGroups.find? (·.1.contains name) with
    | some (_, members) => some (members.filterMap (lookup? categories ·))
    | none => (lookup? categories name).map ([·])

/-- The code points that had been assigned by the given version of the standard. -/
def age? (version : String) : Option (List CodeRanges) :=
  if ages.any (·.1.contains version) then
    let earlier := ages.takeWhile fun (names, _) => !names.contains version
    some ((ages.take (earlier.length + 1)).map fun (_, packed) => CodeRanges.unpack packed)
  else none

/-- The code points with the property of the given name: a binary property, a general category or a
script. Three names stand for a category although they also abbreviate another property. -/
def named? (name : String) : Option (List CodeRanges) :=
  let key := looseName name
  let binary := if ["cf", "sc", "lc"].contains key then none else lookup? binaries key
  match binary with
  | some ranges => some [ranges]
  | none => match category? key with
    | some tables => some tables
    | none => (lookup? scripts key).map ([·])

/-- The code points for which the property `name` has the value `value`. -/
def valued? (name value : String) : Option (List CodeRanges) :=
  let key := looseName name
  let value := looseName value
  if ["gc", "generalcategory"].contains key then category? value
  else if ["sc", "script"].contains key then (lookup? scripts value).map ([·])
  else if ["scx", "scriptextensions"].contains key then (lookup? scriptExtensions value).map ([·])
  else if ["age"].contains key then age? value
  else if ["gcb", "graphemeclusterbreak"].contains key then
    (lookup? graphemeBreaks value).map ([·])
  else if ["wb", "wordbreak"].contains key then (lookup? wordBreaks value).map ([·])
  else if ["sb", "sentencebreak"].contains key then (lookup? sentenceBreaks value).map ([·])
  else none

end SecretScan.Property
