import SecretScan.Files.Resolve
import SecretScan.Text.Lowercase

/-!
# Candidate files

The files below a directory that are worth scanning: regular files whose path ends with an accepted
extension and has no excluded name in it. Links are neither followed nor returned. A directory that
cannot be opened is skipped, and its neighbours are not.
-/

namespace SecretScan

mutual

/-- The names that lead from a node to each file below it, in the order of the entries. `path` is the
path of the node, by which it is opened if it is a directory. What has an excluded name is left out
with all that is below it, and so is a directory that cannot be opened. A file is a file below
itself. -/
def Node.filesWithout (top : Node) (excluded : List String) (path : Path) :
    Node → List (List String)
  | .file _ | .lockedFile => [[]]
  | .link _ | .lockedDir => []
  | .dir entries => if top.opensDir path then entryFiles top excluded path entries else []

/-- The names that lead to each file in or below some entries of the directory with a path. -/
def entryFiles (top : Node) (excluded : List String) (path : Path) :
    List (String × Node) → List (List String)
  | [] => []
  | (name, node) :: rest =>
    let below := if excluded.contains name then []
      else (top.filesWithout excluded (path.join ⟨name⟩) node).map (name :: ·)
    below ++ entryFiles top excluded path rest

end

/-- Which files are candidates: extensions in lower case, and excluded names. -/
structure Walker where
  extensions : List String
  excluded : List String
  deriving DecidableEq, Repr

namespace Walker

/-- The walker for some extensions, which are compared without regard to case, and excluded names.
Empty extensions are dropped. -/
def ofLists (extensions excluded : List String) : Walker :=
  ⟨(extensions.map Lowercase.ofString).filter (· != ""), excluded⟩

/-- Whether the path ends with one of the extensions, which are in lower case. -/
def hasExtension (p : Path) (extensions : List String) : Bool :=
  let path := Lowercase.ofChars p.text.toList
  extensions.any fun e => e.toList.isSuffixOf path

/-- The path that stands for the standard input. -/
def standardInput : Path := ⟨"-"⟩

/-- The candidates below a root, as seen from it, in order. There are none if the root is no
directory that can be opened, and none below the standard input, whatever there is under its name. -/
def walk (w : Walker) (top : Node) (root : Path) : List Path :=
  if root.same standardInput then []
  else match top.lookup root with
  | .ok (.dir entries) =>
    let paths := (entryFiles top w.excluded root entries).map Path.ofNames
    (paths.filter (hasExtension · w.extensions)).mergeSort Path.le
  | _ => []

end Walker

end SecretScan
