import SecretScan.Files.Path
import SecretScan.Files.Tree

/-!
# Finding files by their path

How a path leads to a node of a tree. The top of the tree is the working directory, and nothing lies
above it: an absolute path starts there too. Links are followed, at most forty in one search. What
cannot be found, opened, read or made is an `AccessError`.
-/

namespace SecretScan

/-- Why a file cannot be accessed. -/
inductive AccessError where
  | notFound
  | denied
  | notADirectory
  | isADirectory
  | nameTooLong
  | tooManyLinks
  | nulInPath
  /-- The content is no text. -/
  | notText
  deriving DecidableEq, Repr

/-- The wording of an error. -/
def AccessError.message : AccessError → String
  | notFound => "No such file or directory (os error 2)"
  | denied => "Permission denied (os error 13)"
  | notADirectory => "Not a directory (os error 20)"
  | isADirectory => "Is a directory (os error 21)"
  | nameTooLong => "File name too long (os error 36)"
  | tooManyLinks => "Too many levels of symbolic links (os error 40)"
  | nulInPath => "file name contained an unexpected NUL byte"
  | notText => "stream did not contain valid UTF-8"

namespace Resolve

/-- The number of bytes that a path may have. -/
def maxPath : Nat := 4095

/-- The number of bytes that a name may have. -/
def maxName : Nat := 255

/-- The number of links that one search may follow. -/
def maxLinks : Nat := 40

/-- A place in a tree: the names that lead to it, the last one first. -/
abbrev Location := List String

/-- The node at a location. -/
def nodeAt? (top : Node) (at_ : Location) : Option Node := top.at? at_.reverse

/-- Whether a piece of a path names no entry of a directory. -/
def isDots (piece : List Char) : Bool := piece == [] || piece == ['.'] || piece == ['.', '.']

/-- Follows pieces of a path from a directory up to a link, where `onLink` goes on: it is given the
directory from which the target of the link is seen, the target and the pieces after the link. An
empty piece or a dot asks for a directory and stays there; in a locked directory, only empty pieces
can be followed. If the path is `creating`, its last piece has to name a file that is there and can
be opened, or can be made. -/
def through (top : Node) (creating : Bool)
    (onLink : Location → Path → List (List Char) → Except AccessError Location) (at_ : Location) :
    List (List Char) → Except AccessError Location
  | [] => .ok at_
  | piece :: rest =>
    match nodeAt? top at_ with
    | some (.dir _) =>
      -- a path that ends with a slash or with dots cannot be made a file
      if creating && rest.all (· == []) && (rest != [] || isDots piece) then .error .isADirectory
      else if piece = ['.', '.'] then through top creating onLink at_.tail rest
      else if isDots piece then through top creating onLink at_ rest
      else if maxName < Utf8.size piece then .error .nameTooLong
      else
        let place := String.ofList piece :: at_
        match nodeAt? top place with
        | none => if creating ∧ rest = [] then .ok place else .error .notFound
        | some (.link target) =>
          let path : Path := ⟨target⟩
          onLink (if path.isAbsolute then [] else at_) path rest
        | some (.dir _) | some .lockedDir =>
          if creating ∧ rest = [] then .error .isADirectory
          else through top creating onLink place rest
        | some .lockedFile =>
          if creating ∧ rest = [] then .error .denied
          else through top creating onLink place rest
        | some (.file _) => through top creating onLink place rest
    | some .lockedDir =>
      if creating && (piece :: rest).all (· == []) then .error .isADirectory
      else if piece = [] then through top creating onLink at_ rest
      else .error .denied
    | _ => .error .notADirectory

/-- Follows pieces of a path from a directory. `links` is how many links may be followed. -/
def follow (top : Node) (creating : Bool) (links : Nat) (at_ : Location)
    (pieces : List (List Char)) : Except AccessError Location :=
  match links with
  | 0 => through top creating (fun _ _ _ => .error .tooManyLinks) at_ pieces
  | links + 1 => through top creating
      (fun from_ path rest => follow top creating links from_ (path.pieces ++ rest)) at_ pieces

/-- Refuses texts that are no path. -/
def check (p : Path) : Except AccessError Unit :=
  if p.text.toList.contains '\x00' then .error .nulInPath
  else if p.text = "" then .error .notFound
  else if maxPath < Utf8.size p.text.toList then .error .nameTooLong
  else .ok ()

end Resolve

namespace Node

/-- The location that a path leads to, through all links. -/
def resolve (top : Node) (p : Path) : Except AccessError Resolve.Location := do
  Resolve.check p
  Resolve.follow top false Resolve.maxLinks [] p.pieces

/-- The node that a path leads to, through all links. -/
def lookup (top : Node) (p : Path) : Except AccessError Node := do
  match Resolve.nodeAt? top (← top.resolve p) with
  | some node => .ok node
  | none => .error .notFound

/-- Whether a path leads to a directory that can be opened. -/
def opensDir (top : Node) (p : Path) : Bool :=
  match top.lookup p with
  | .ok (.dir _) => true
  | _ => false

/-- The content of the file that a path leads to. -/
def read (top : Node) (p : Path) : Except AccessError Bytes := do
  match ← top.lookup p with
  | .file content => .ok content
  | .lockedFile | .lockedDir => .error .denied
  | _ => .error .isADirectory

/-- The content of a file that has to be text. -/
def readText (top : Node) (p : Path) : Except AccessError (List Char) := do
  match Utf8.decode (← top.read p) with
  | .ok text => .ok text
  | .error _ => .error .notText

/-- Whether a path leads anywhere. -/
def hasPath (top : Node) (p : Path) : Bool := (top.lookup p).isOk

/-- The tree with the content of the file that a path leads to replaced. The file is made if it does
not exist, but no directory is. -/
def write (top : Node) (p : Path) (content : Bytes) : Except AccessError Node := do
  Resolve.check p
  let at_ ← Resolve.follow top true Resolve.maxLinks [] p.pieces
  return top.set at_.reverse (.file content)

end Node

end SecretScan
