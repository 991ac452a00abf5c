import Mathlib
import SecretScan.Files.Resolve
import SecretScan.Proofs.Text.Line

/-!
# What writing a file changes

A tree is looked at one path at a time: what stands there is a file with its content, a link with its
target, or a directory, whose entries have paths of their own, unless it is locked.  Writing a file
changes what stands at one path only, and the path that was written to leads there afterwards
(`Node.write_replaces`).
-/

namespace SecretScan

/-! ## 1. What stands at a path -/

namespace Node

/-- What a node is by itself. -/
inductive Kind where
  | file (content : Bytes)
  | link (target : String)
  | dir
  | lockedFile
  | lockedDir

/-- What a node is by itself. -/
def kind : Node → Kind
  | .file content => .file content
  | .link target => .link target
  | .dir _ => .dir
  | .lockedFile => .lockedFile
  | .lockedDir => .lockedDir

/-- What stands where names lead to, without following links. -/
def kindAt? (top : Node) (names : List String) : Option Kind := (top.at? names).map kind

theorem kindAt?_eq_dir_iff {top : Node} {names : List String} :
    top.kindAt? names = some .dir ↔ ∃ entries, top.at? names = some (dir entries) := by
  rw [kindAt?, Option.map_eq_some_iff]
  constructor
  · rintro ⟨node, hat, hkind⟩
    cases node with
    | dir entries => exact ⟨entries, hat⟩
    | _ => cases hkind
  · rintro ⟨entries, hat⟩
    exact ⟨_, hat, rfl⟩

/-- Only a directory has something below it. -/
theorem at?_cons_of_ne_dir {node : Node} (h : node.kind ≠ .dir) (name : String)
    (names : List String) : node.at? (name :: names) = none := by
  cases node with
  | dir entries => exact absurd rfl h
  | _ => rfl

/-! ## 2. Entries and what is put there -/

theorem child?_setEntry (entries : List (String × Node)) (name other : String) (node : Node) :
    (dir (setEntry name node entries)).child? other =
      if other = name then some node else (dir entries).child? other := by
  induction entries with
  | nil =>
    by_cases h : other = name
    · simp [child?, setEntry, h]
    · simp [child?, setEntry, h, Ne.symm h]
  | cons entry entries ih =>
    obtain ⟨n, old⟩ := entry
    rw [child?, child?] at ih ⊢
    rw [setEntry]
    -- the first entry of the name is replaced, and else the search goes on
    by_cases hn : n = name
    · subst hn
      by_cases h : other = n
      · simp [h]
      · simp [h, Ne.symm h]
    · rw [if_neg hn]
      by_cases h : n = other
      · subst h
        simp [hn]
      · have hbeq : (n == other) = false := by simpa using h
        simp only [List.find?_cons, hbeq, ih]

theorem set_cons_dir (entries : List (String × Node)) (name : String) (names : List String)
    (new : Node) : (dir entries).set (name :: names) new =
      dir (setEntry name ((((dir entries).child? name).getD emptyDir).set names new) entries) :=
  rfl

theorem kindAt?_cons {entries : List (String × Node)} {name : String} {child : Node}
    (hchild : (dir entries).child? name = some child) (names : List String) :
    (dir entries).kindAt? (name :: names) = child.kindAt? names := by
  rw [kindAt?, at?, hchild]
  rfl

/-- What stands below another entry is as before. -/
theorem kindAt?_setEntry_of_ne {entries : List (String × Node)} {name other : String}
    (h : other ≠ name) (node : Node) (names : List String) :
    (dir (setEntry name node entries)).kindAt? (other :: names) =
      (dir entries).kindAt? (other :: names) := by
  rw [kindAt?, kindAt?, at?, at?, child?_setEntry, if_neg h]

/-- Below what is put into a directory nothing stands, and nothing stood there before. -/
theorem kindAt?_setEntry_below {entries : List (String × Node)} {name : String} {new : Node}
    (hold : (dir entries).kindAt? [name] ≠ some .dir) (hnew : new.kind ≠ .dir) (n : String)
    (names : List String) :
    (dir (setEntry name new entries)).kindAt? (name :: n :: names) =
      (dir entries).kindAt? (name :: n :: names) := by
  rw [kindAt?, kindAt?, at?, at?, child?_setEntry, if_pos rfl]
  simp only [at?_cons_of_ne_dir hnew]
  cases hchild : (dir entries).child? name with
  | none => rfl
  | some child =>
    have hkind : child.kind ≠ .dir := fun hdir => hold (by simp [kindAt?, at?, hchild, hdir])
    simp only [at?_cons_of_ne_dir hkind]

theorem exists_child_of_kindAt?_cons {top : Node} {n : String} {names : List String}
    (h : top.kindAt? (n :: names) = some .dir) : ∃ entries child, top = dir entries ∧
      (dir entries).child? n = some child ∧ child.kindAt? names = some .dir := by
  cases top with
  | dir entries =>
    cases hchild : (dir entries).child? n with
    | none =>
      rw [kindAt?, at?, hchild] at h
      cases h
    | some child => exact ⟨entries, child, rfl, hchild, kindAt?_cons hchild names ▸ h⟩
  | _ => cases h

/-- A node that is put into a directory stands there, and all that stands elsewhere is as before. -/
theorem set_concat {top new : Node} {names : List String} {name : String}
    (hparent : top.kindAt? names = some .dir)
    (hold : top.kindAt? (names ++ [name]) ≠ some .dir) (hnew : new.kind ≠ .dir) :
    (top.set (names ++ [name]) new).at? (names ++ [name]) = some new ∧
      ∀ other, other ≠ names ++ [name] →
        (top.set (names ++ [name]) new).kindAt? other = top.kindAt? other := by
  -- down the directories, each of which is put back with one of its entries changed
  induction names generalizing top with
  | nil =>
    obtain ⟨entries, hat⟩ := kindAt?_eq_dir_iff.mp hparent
    cases hat
    rw [List.nil_append] at hold ⊢
    have hset : (dir entries).set [name] new = dir (setEntry name new entries) := rfl
    rw [hset]
    refine ⟨by simp [at?, child?_setEntry], fun other hother => ?_⟩
    cases other with
    | nil => rfl
    | cons n below =>
      by_cases hn : n = name
      · subst hn
        obtain ⟨m, below, rfl⟩ := List.exists_cons_of_ne_nil fun hnil => hother (hnil ▸ rfl)
        exact kindAt?_setEntry_below hold hnew m below
      · exact kindAt?_setEntry_of_ne hn new below
  | cons n names ih =>
    obtain ⟨entries, child, rfl, hchild, hdir⟩ := exists_child_of_kindAt?_cons hparent
    obtain ⟨hput, helse⟩ := ih hdir (kindAt?_cons hchild _ ▸ hold)
    rw [List.cons_append, set_cons_dir, hchild, Option.getD_some]
    refine ⟨by simp [at?, child?_setEntry, hput], fun other hother => ?_⟩
    cases other with
    | nil => rfl
    | cons m other =>
      by_cases hm : m = n
      · subst hm
        have hchild' : (dir (setEntry m (child.set (names ++ [name]) new) entries)).child? m =
            some (child.set (names ++ [name]) new) := by
          rw [child?_setEntry, if_pos rfl]
        rw [kindAt?_cons hchild', kindAt?_cons hchild]
        exact helse other fun heq => hother (congrArg _ heq)
      · exact kindAt?_setEntry_of_ne hm _ other

end Node

/-! ## 3. Where a path leads -/

namespace Resolve

variable {top top' : Node} {creating : Bool} {at_ place : Location}

/-- The pieces of a path are followed by what stands at the places on the way. -/
theorem through_cons (top : Node) (creating : Bool)
    (onLink : Location → Path → List (List Char) → Except AccessError Location) (at_ : Location)
    (piece : List Char) (rest : List (List Char)) :
    through top creating onLink at_ (piece :: rest) =
      match top.kindAt? at_.reverse with
      | some .dir =>
        if creating && rest.all (· == []) && (rest != [] || isDots piece) then .error .isADirectory
        else if piece = ['.', '.'] then through top creating onLink at_.tail rest
        else if isDots piece then through top creating onLink at_ rest
        else if maxName < Utf8.size piece then .error .nameTooLong
        else match top.kindAt? (String.ofList piece :: at_).reverse with
          | none => if creating ∧ rest = [] then .ok (String.ofList piece :: at_) else .error .notFound
          | some (.link target) => onLink (if Path.isAbsolute ⟨target⟩ then [] else at_) ⟨target⟩ rest
          | some .dir | some .lockedDir => if creating ∧ rest = [] then .error .isADirectory
            else through top creating onLink (String.ofList piece :: at_) rest
          | some .lockedFile => if creating ∧ rest = [] then .error .denied
            else through top creating onLink (String.ofList piece :: at_) rest
          | some (.file _) => through top creating onLink (String.ofList piece :: at_) rest
      | some .lockedDir =>
        if creating && (piece :: rest).all (· == []) then .error .isADirectory
        else if piece = [] then through top creating onLink at_ rest
        else .error .denied
      | _ => .error .notADirectory := by
  rw [through]
  unfold nodeAt? Node.kindAt?
  dsimp only
  -- both sides look at what stands at the two places, so one case for each will do
  generalize top.at? (String.ofList piece :: at_).reverse = child
  cases top.at? at_.reverse with
  | none => rfl
  | some node =>
    cases node <;> first | rfl | (rcases child with _ | _ | _ | _ | _ | _ <;> rfl)

/-- In a locked directory nothing can be made, and no file in it can be opened. -/
theorem through_lockedDir_ne_ok (hlocked : top.kindAt? at_.reverse = some .lockedDir)
    {onLink : Location → Path → List (List Char) → Except AccessError Location}
    {pieces : List (List Char)} (hne : pieces ≠ []) :
    through top true onLink at_ pieces ≠ .ok place := by
  induction pieces with
  | nil => exact absurd rfl hne
  | cons piece rest ih =>
    rw [through_cons, hlocked]
    dsimp only
    split_ifs with hempty hpiece
    · exact nofun
    · -- a last piece that is empty was refused, so another one follows
      refine ih ?_
      rintro rfl
      simp [hpiece] at hempty
    · exact nofun

/-- A place in a directory at which a file stands or can be made. -/
structure Writable (top : Node) (place : Location) : Prop where
  parent : ∃ name at_, place = name :: at_ ∧ top.kindAt? at_.reverse = some .dir
  kind : top.kindAt? place.reverse = none ∨ ∃ content, top.kindAt? place.reverse = some (.file content)

theorem Writable.ne_dir (h : Writable top place) : top.kindAt? place.reverse ≠ some .dir := by
  rcases h.kind with hnone | ⟨content, hfile⟩
  · simp [hnone]
  · simp [hfile]

/-- A tree that differs at most in the file at a place, which is there if it was there before. -/
structure SameBut (place : Location) (top top' : Node) : Prop where
  elsewhere : ∀ names, names ≠ place.reverse → top'.kindAt? names = top.kindAt? names
  kept : (top'.kindAt? place.reverse = none ∧ top.kindAt? place.reverse = none) ∨
    ∃ content, top'.kindAt? place.reverse = some (.file content)

theorem SameBut.refl (h : Writable top place) : SameBut place top top :=
  ⟨fun _ _ => rfl, h.kind.imp_left fun hnone => ⟨hnone, hnone⟩⟩

/-- Links and directories are at no place where a file can be. -/
theorem SameBut.kindAt?_eq (h : SameBut place top top') (hwritable : Writable top place)
    {names : List String} {kind : Node.Kind} (hkind : top.kindAt? names = some kind)
    (hnofile : ∀ content, kind ≠ .file content) : top'.kindAt? names = some kind := by
  rw [h.elsewhere names, hkind]
  rintro rfl
  rcases hwritable.kind with hnone | ⟨content, hfile⟩
  · rw [hkind] at hnone
    cases hnone
  · rw [hkind] at hfile
    exact hnofile content (Option.some.inj hfile)

/-- A search for a file to be written ends at a place, and the same search for a file that is there
ends at the same place if a file has been made there, and finds nothing otherwise. -/
structure LeadsTo (top : Node) (place : Location)
    (search : Node → Except AccessError Location) : Prop where
  writable : Writable top place
  found : ∀ top', SameBut place top top' →
    search top' = if (top'.kindAt? place.reverse).isSome then .ok place else .error .notFound

variable {onLink : Location → Path → List (List Char) → Except AccessError Location}
  {onLink' : Node → Location → Path → List (List Char) → Except AccessError Location}

/-- The last name of a path that is followed to be written. -/
theorem leadsTo_through_name {piece : List Char} (hdir : top.kindAt? at_.reverse = some .dir)
    (hdots : isDots piece = false) (hname : ¬ maxName < Utf8.size piece)
    (hkind : top.kindAt? (String.ofList piece :: at_).reverse = none ∨
      ∃ content, top.kindAt? (String.ofList piece :: at_).reverse = some (.file content)) :
    LeadsTo top (String.ofList piece :: at_) fun top' =>
      through top' false (onLink' top') at_ [piece] := by
  have hwritable : Writable top (String.ofList piece :: at_) := ⟨⟨_, _, rfl, hdir⟩, hkind⟩
  refine ⟨hwritable, fun top' hsame => ?_⟩
  -- the name is not that of a directory above
  have hparent : piece ≠ ['.', '.'] := by
    rintro rfl
    cases hdots
  rw [through_cons, hsame.kindAt?_eq hwritable hdir nofun]
  simp only [Bool.false_and, Bool.false_eq_true, if_false, if_neg hparent, hdots, if_neg hname]
  -- the file is there or not, and nothing else can stand at its place
  rcases hsame.kept with ⟨hnone, -⟩ | ⟨content, hfile⟩
  · simp [hnone, -List.reverse_cons]
  · simp [hfile, through, -List.reverse_cons]

/-- What the first piece of a path does in a search for a file to be written that ends at `place`. -/
inductive Turn (top : Node) (onLink : Location → Path → List (List Char) → Except AccessError Location)
    (at_ : Location) (piece : List Char) (rest : List (List Char)) (place : Location) : Prop
  /-- It leads to the directory above. -/
  | up (hpiece : piece = ['.', '.']) (hrest : rest ≠ [])
    (h : through top true onLink at_.tail rest = .ok place)
  /-- It stands for the directory itself. -/
  | stay (hpiece : piece ≠ ['.', '.']) (hdots : isDots piece = true) (hrest : rest ≠ [])
    (h : through top true onLink at_ rest = .ok place)
  /-- It is the name of the file. -/
  | last (hdots : isDots piece = false) (hname : ¬ maxName < Utf8.size piece) (hrest : rest = [])
    (hplace : place = String.ofList piece :: at_)
    (hkind : top.kindAt? (String.ofList piece :: at_).reverse = none ∨
      ∃ content, top.kindAt? (String.ofList piece :: at_).reverse = some (.file content))
  /-- It is the name of a link. -/
  | link (hdots : isDots piece = false) (hname : ¬ maxName < Utf8.size piece) (target : String)
    (htarget : top.kindAt? (String.ofList piece :: at_).reverse = some (.link target))
    (h : onLink (if Path.isAbsolute ⟨target⟩ then [] else at_) ⟨target⟩ rest = .ok place)
  /-- It is the name of a directory. -/
  | enter (hdots : isDots piece = false) (hname : ¬ maxName < Utf8.size piece) (hrest : rest ≠ [])
    (hbelow : top.kindAt? (String.ofList piece :: at_).reverse = some .dir)
    (h : through top true onLink (String.ofList piece :: at_) rest = .ok place)

theorem turn_of_through {piece : List Char} {rest : List (List Char)}
    (h : through top true onLink at_ (piece :: rest) = .ok place) :
    top.kindAt? at_.reverse = some .dir ∧ Turn top onLink at_ piece rest place := by
  rw [through_cons] at h
  split at h
  next hdir =>
    refine ⟨hdir, ?_⟩
    split at h
    next => cases h
    next hmade =>
      -- a directory is not made, so a piece that stands for one is not the last
      have hrest : isDots piece = true → rest ≠ [] := by
        rintro hdots rfl
        simp [hdots] at hmade
      split at h
      next hparent => exact .up hparent (hrest (by rw [hparent]; rfl)) h
      next hparent =>
        split at h
        next hdots => exact .stay hparent hdots (hrest hdots) h
        next hdots =>
          rw [Bool.not_eq_true] at hdots
          split at h
          next => cases h
          next hname =>
            split at h
            next hnone =>
              split at h
              next hlast =>
                cases h
                exact .last hdots hname hlast.2 rfl (.inl hnone)
              next => cases h
            next target htarget => exact .link hdots hname target htarget h
            next hbelow =>
              split at h
              next => cases h
              next hinner => exact .enter hdots hname (fun hnil => hinner ⟨rfl, hnil⟩) hbelow h
            next hlocked =>
              split at h
              next => cases h
              next hinner =>
                exact absurd h (through_lockedDir_ne_ok hlocked fun hnil => hinner ⟨rfl, hnil⟩)
            next hlocked =>
              cases rest with
              | nil =>
                rw [if_pos ⟨rfl, rfl⟩] at h
                cases h
              | cons next_ rest =>
                rw [if_neg (by simp), through_cons, hlocked] at h
                cases h
            next content hfile =>
              cases rest with
              | nil =>
                cases h
                exact .last hdots hname rfl rfl (.inr ⟨content, hfile⟩)
              | cons next_ rest =>
                rw [through_cons, hfile] at h
                cases h
  next hlocked =>
    have hthrough : through top true onLink at_ (piece :: rest) ≠ .ok place :=
      through_lockedDir_ne_ok hlocked (List.cons_ne_nil piece rest)
    rw [through_cons, hlocked] at hthrough
    exact absurd h hthrough
  next => cases h

theorem leadsTo_through (hlink : ∀ from_ path rest, onLink from_ path rest = .ok place →
      LeadsTo top place fun top' => onLink' top' from_ path rest)
    {pieces : List (List Char)} (hne : pieces ≠ [])
    (h : through top true onLink at_ pieces = .ok place) :
    LeadsTo top place fun top' => through top' false (onLink' top') at_ pieces := by
  induction pieces generalizing at_ with
  | nil => exact absurd rfl hne
  | cons piece rest ih =>
    obtain ⟨hdir, hturn⟩ := turn_of_through h
    -- the search goes on where a search that leads to the place starts
    have hthrough : ∀ {search : Node → Except AccessError Location}, LeadsTo top place search →
        (∀ top', SameBut place top top' → top'.kindAt? at_.reverse = some .dir →
          through top' false (onLink' top') at_ (piece :: rest) = search top') →
        LeadsTo top place fun top' => through top' false (onLink' top') at_ (piece :: rest) :=
      fun hsearch heq => ⟨hsearch.writable, fun top' hsame =>
        (heq top' hsame (hsame.kindAt?_eq hsearch.writable hdir nofun)).trans
          (hsearch.found top' hsame)⟩
    have hnotParent : isDots piece = false → piece ≠ ['.', '.'] := by
      rintro hdots rfl
      cases hdots
    cases hturn with
    | up hpiece hrest h =>
      refine hthrough (ih hrest h) fun top' _ hdir' => ?_
      simp [through_cons, hdir', hpiece]
    | stay hpiece hdots hrest h =>
      refine hthrough (ih hrest h) fun top' _ hdir' => ?_
      simp [through_cons, hdir', hpiece, hdots]
    | last hdots hname hrest hplace hkind =>
      subst hrest hplace
      exact leadsTo_through_name hdir hdots hname hkind
    | link hdots hname target htarget h =>
      have hsearch := hlink _ _ _ h
      refine hthrough hsearch fun top' hsame hdir' => ?_
      have htarget' := hsame.kindAt?_eq hsearch.writable htarget nofun
      simp [through_cons, hdir', hnotParent hdots, hdots, hname, htarget', -List.reverse_cons]
    | enter hdots hname hrest hbelow h =>
      have hsearch := ih hrest h
      refine hthrough hsearch fun top' hsame hdir' => ?_
      have hbelow' := hsame.kindAt?_eq hsearch.writable hbelow nofun
      simp [through_cons, hdir', hnotParent hdots, hdots, hname, hbelow', -List.reverse_cons]

theorem leadsTo_follow {links : Nat} {pieces : List (List Char)} (hne : pieces ≠ [])
    (h : follow top true links at_ pieces = .ok place) :
    LeadsTo top place fun top' => follow top' false links at_ pieces := by
  induction links generalizing at_ pieces with
  | zero => exact leadsTo_through (fun _ _ _ hlink => by cases hlink) hne h
  | succ links ih =>
    refine leadsTo_through (fun from_ path rest hlink => ih ?_ hlink) hne h
    exact List.append_ne_nil_of_left_ne_nil (Line.split_ne_nil _ _) _

end Resolve

/-! ## 4. Writing a file -/

namespace Node

variable {top top' : Node} {p : Path} {content : Bytes} {place : Resolve.Location}

/-- What writing to a path has done: the place that the path leads to holds the content. Before, the
path led to the same place if there was a file, and to nothing otherwise. Everything that stands
elsewhere is as before. -/
structure Written (top : Node) (p : Path) (content : Bytes) (place : Resolve.Location)
    (top' : Node) : Prop where
  before : top.resolve p = .error .notFound ∧ top.kindAt? place.reverse = none ∨
    top.resolve p = .ok place ∧ ∃ old, top.kindAt? place.reverse = some (.file old)
  after : top'.resolve p = .ok place
  content_eq : top'.at? place.reverse = some (.file content)
  elsewhere : ∀ names, names ≠ place.reverse → top'.kindAt? names = top.kindAt? names

theorem Written.read_eq (h : Written top p content place top') : top'.read p = .ok content := by
  have hlookup : top'.lookup p = .ok (.file content) := by
    simp only [lookup, h.after, Resolve.nodeAt?, bind, Except.bind, h.content_eq]
  rw [read, hlookup]
  rfl

theorem write_replaces (h : top.write p content = .ok top') :
    ∃ place, Written top p content place top' := by
  unfold write at h
  cases hcheck : Resolve.check p with
  | error e =>
    rw [hcheck] at h
    cases h
  | ok =>
    rw [hcheck] at h
    cases hfollow : Resolve.follow top true Resolve.maxLinks [] p.pieces with
    | error e =>
      rw [hfollow] at h
      cases h
    | ok place =>
      rw [hfollow] at h
      cases h
      -- the path is followed as before, but for a file that is there
      have hresolve : ∀ node : Node, node.resolve p =
          Resolve.follow node false Resolve.maxLinks [] p.pieces := by
        intro node
        rw [resolve, hcheck]
        rfl
      have hpieces : p.pieces ≠ [] := Line.split_ne_nil '/' p.text.toList
      have hleads := Resolve.leadsTo_follow hpieces hfollow
      obtain ⟨name, parent, rfl, hparent⟩ := hleads.writable.parent
      -- the file is put into the last directory on the way
      have hold := hleads.writable.ne_dir
      rw [List.reverse_cons] at hold
      have hfile : (file content).kind ≠ .dir := nofun
      obtain ⟨hat, helsewhere⟩ := set_concat hparent hold hfile
      rw [← List.reverse_cons] at hat helsewhere
      have hkind : (top.set (name :: parent).reverse (.file content)).kindAt?
          (name :: parent).reverse = some (.file content) := by
        rw [kindAt?, hat]
        rfl
      refine ⟨name :: parent, ?_, ?_, hat, helsewhere⟩
      · rw [hresolve, hleads.found top (.refl hleads.writable)]
        rcases hleads.writable.kind with hnone | ⟨old, hold⟩
        · exact .inl ⟨by rw [hnone]; rfl, hnone⟩
        · exact .inr ⟨by rw [hold]; rfl, old, hold⟩
      · rw [hresolve, hleads.found _ ⟨helsewhere, .inr ⟨content, hkind⟩⟩, hkind]
        rfl

end Node

end SecretScan
