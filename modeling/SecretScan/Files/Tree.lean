import SecretScan.Text.Utf8

/-!
# Trees of files

A tree of files as one value: files, directories and symbolic links. A place in a tree is the list
of names that leads there from the top. Names are texts, so that there are no files whose names are
not Unicode.
-/

namespace SecretScan

/-- A file, a directory with its entries, or a symbolic link with its target. A file or a directory
that may not be opened is locked, and what is in it is out of sight. -/
inductive Node where
  | file (content : Bytes)
  | link (target : String)
  | dir (entries : List (String × Node))
  | lockedFile
  | lockedDir
  deriving Repr, Inhabited

namespace Node

/-- The directory without entries. -/
def emptyDir : Node := dir []

/-- Whether the node is a directory. -/
def isDir : Node → Bool
  | dir _ | lockedDir => true
  | _ => false

/-- Whether the node is a file. -/
def isFile : Node → Bool
  | file _ | lockedFile => true
  | _ => false

/-- The entry of a directory with a name. -/
def child? : Node → String → Option Node
  | dir entries, name => (entries.find? (·.1 == name)).map (·.2)
  | _, _ => none

/-- The node that names lead to, without following links. -/
def at? (node : Node) : List String → Option Node
  | [] => some node
  | name :: names => match node.child? name with
    | some child => child.at? names
    | none => none

/-- Entries in which `name` is replaced by `node`, or comes last if it is new. -/
def setEntry (name : String) (node : Node) : List (String × Node) → List (String × Node)
  | [] => [(name, node)]
  | (n, old) :: rest => if n = name then (n, node) :: rest else (n, old) :: setEntry name node rest

/-- Puts a node where names lead to. The directories on the way are made if they are missing. -/
def set (node : Node) : List String → Node → Node
  | [], new => new
  | name :: names, new =>
    match node with
    | dir entries =>
      dir (setEntry name (set ((node.child? name).getD emptyDir) names new) entries)
    | _ => dir [(name, set emptyDir names new)]

/-- Takes away the node that names lead to. -/
def remove (node : Node) : List String → Node
  | [] => node
  | [name] => match node with
    | dir entries => dir (entries.filter (·.1 != name))
    | other => other
  | name :: names => match node, node.child? name with
    | dir entries, some child => dir (setEntry name (remove child names) entries)
    | other, _ => other

end Node

end SecretScan
