import SecretScan.Proofs.Files.Walk
import SecretScan.Proofs.Text.Utf8

/-!
# Directories that can be opened

A walk opens each directory by its path, and every such path is followed anew from the top of the
tree.  A path that is followed in two parts leads where the second part leads from the place at which
the first one ends (`Resolve.follow_append`).  So the directories below a root that can be opened are
those that names lead to, as far as the system takes paths and names of their length
(`Node.opensDir_below_iff`).
-/

namespace SecretScan

/-! ## 1. Following a path in two parts -/

namespace Resolve

variable {top : Node}

/-- What one piece of a path leads to: a place, or a link that is seen from a place. -/
inductive Next where
  | place (at_ : Location)
  | link (from_ : Location) (target : Path)

/-- What one piece of a path leads to from a place, if nothing is made. -/
def next (top : Node) (at_ : Location) (piece : List Char) : Except AccessError Next :=
  match nodeAt? top at_ with
  | some (.dir _) =>
    if piece = ['.', '.'] then .ok (.place at_.tail)
    else if isDots piece then .ok (.place at_)
    else if maxName < Utf8.size piece then .error .nameTooLong
    else match nodeAt? top (String.ofList piece :: at_) with
      | none => .error .notFound
      | some (.link target) => .ok (.link (if Path.isAbsolute ⟨target⟩ then [] else at_) ⟨target⟩)
      | some _ => .ok (.place (String.ofList piece :: at_))
  | some .lockedDir => if piece = [] then .ok (.place at_) else .error .denied
  | _ => .error .notADirectory

theorem through_cons_of_next (top : Node)
    (onLink : Location → Path → List (List Char) → Except AccessError Location) (at_ : Location)
    (piece : List Char) (rest : List (List Char)) :
    through top false onLink at_ (piece :: rest) =
      match next top at_ piece with
      | .error e => .error e
      | .ok (.place place) => through top false onLink place rest
      | .ok (.link from_ target) => onLink from_ target rest := by
  rw [through, next]
  simp only [Bool.false_and, Bool.false_eq_true, false_and, if_false]
  cases nodeAt? top at_ with
  | none => rfl
  | some node =>
    cases node with
    | dir _ =>
      dsimp only
      split_ifs
      · rfl
      · rfl
      · rfl
      · cases nodeAt? top (String.ofList piece :: at_) with
        | none => rfl
        | some child => cases child <;> rfl
    | lockedDir =>
      dsimp only
      split_ifs <;> rfl
    | _ => rfl

/-- The first piece of a path leads to a place or to a link, whatever comes after it. -/
theorem follow_cons (top : Node) (links : Nat) (at_ : Location) (piece : List Char)
    (rest : List (List Char)) :
    follow top false links at_ (piece :: rest) =
      match next top at_ piece with
      | .error e => .error e
      | .ok (.place place) => follow top false links place rest
      | .ok (.link from_ target) => match links with
        | 0 => .error .tooManyLinks
        | links + 1 => follow top false links from_ (target.pieces ++ rest) := by
  cases links with
  | zero =>
    rw [follow, through_cons_of_next]
    rfl
  | succ links =>
    rw [follow, through_cons_of_next]
    rfl

/-- A search whose first part does not depend on what comes after it: it goes on from a place, with
the links that are left, or it fails. -/
inductive Splits (top : Node) (search : List (List Char) → Except AccessError Location) : Prop
  | goesOn (place : Location) (links : Nat)
    (h : ∀ rest, search rest = follow top false links place rest)
  | fails (e : AccessError) (h : ∀ rest, search rest = .error e)

/-- A path is followed up to any of its pieces in the same way, whatever comes after that piece. -/
theorem follow_append (top : Node) (links : Nat) (at_ : Location) (pieces : List (List Char)) :
    Splits top fun rest => follow top false links at_ (pieces ++ rest) := by
  -- the links that are left decrease where a link is followed, and the pieces elsewhere
  induction links using Nat.strong_induction_on generalizing at_ pieces with
  | _ links ihLinks =>
  induction pieces generalizing at_ with
  | nil => exact .goesOn at_ links fun _ => rfl
  | cons piece pieces ih =>
    simp only [List.cons_append, follow_cons]
    cases next top at_ piece with
    | error e => exact .fails e fun _ => rfl
    | ok next =>
      cases next with
      | place place => exact ih place
      | link from_ target =>
        cases links with
        | zero => exact .fails .tooManyLinks fun _ => rfl
        | succ links =>
          -- the pieces of the target come before those that are left
          simp only [← List.append_assoc]
          exact ihLinks links (Nat.lt_succ_self links) from_ (target.pieces ++ pieces)

/-! ## 2. Following a path to a name behind it -/

variable {child : Node} {p : Path} {place : Location} {name : String}
  {entries : List (String × Node)}

theorem check_eq_ok_iff : check p = .ok () ↔
    '\x00' ∉ p.text.toList ∧ p.text ≠ "" ∧ Utf8.size p.text.toList ≤ maxPath := by
  unfold check
  split_ifs with hnul hempty hlong
  · exact iff_of_false nofun fun h => h.1 (by simpa using hnul)
  · exact iff_of_false nofun fun h => h.2.1 hempty
  · exact iff_of_false nofun fun h => absurd h.2.2 (by omega)
  · exact iff_of_true rfl ⟨by simpa using hnul, hempty, by omega⟩

theorem check_join (hcheck : check p = .ok ()) (hname : Path.IsName name) :
    check (p.join ⟨name⟩) = .ok () ↔
      '\x00' ∉ name.toList ∧ Utf8.size (p.join ⟨name⟩).text.toList ≤ maxPath := by
  obtain ⟨hnul, hne, -⟩ := check_eq_ok_iff.mp hcheck
  have htext : (p.join ⟨name⟩).text ≠ "" := by
    intro hempty
    have hnil := congrArg String.toList hempty
    rcases Path.toList_join (p := p) hname with ⟨-, h⟩ | h
    · exact hname.ne_empty (List.append_eq_nil_iff.mp (h.symm.trans hnil)).2
    · exact List.cons_ne_nil _ _ (List.append_eq_nil_iff.mp (h.symm.trans hnil)).2
  have hjoin : '\x00' ∈ (p.join ⟨name⟩).text.toList ↔ '\x00' ∈ name.toList := by
    rcases Path.toList_join (p := p) hname with ⟨-, h⟩ | h
    · rw [h, List.mem_append]
      exact or_iff_right hnul
    · rw [h, List.mem_append, List.mem_cons]
      exact (or_iff_right hnul).trans (or_iff_right (by decide))
  rw [check_eq_ok_iff, hjoin]
  exact and_congr_right fun _ => and_iff_right htext

theorem resolve_eq_ok_iff : top.resolve p = .ok place ↔
    check p = .ok () ∧ follow top false maxLinks [] p.pieces = .ok place := by
  rw [Node.resolve]
  cases check p with
  | error e => exact iff_of_false nofun fun h => nomatch h.1
  | ok => exact (and_iff_right rfl).symm

theorem nodeAt?_below (hdir : nodeAt? top place = some (.dir entries)) (names : List String) :
    nodeAt? top (names.reverse ++ place) = (Node.dir entries).at? names := by
  rw [nodeAt?] at hdir ⊢
  rw [List.reverse_append, List.reverse_reverse, Node.at?_append, hdir, Option.bind_some]

/-- The last name of a path leads from a directory to what stands there. -/
theorem follow_name (hdir : nodeAt? top place = some (.dir entries)) (hname : Path.IsName name)
    (hchild : (Node.dir entries).child? name = some child) (hlink : ∀ target, child ≠ .link target)
    (links : Nat) : follow top false links place [name.toList] =
      if maxName < Utf8.size name.toList then .error .nameTooLong else .ok (name :: place) := by
  have hplace : nodeAt? top (name :: place) = some child :=
    (nodeAt?_below hdir [name]).trans (Node.at?_cons.mpr ⟨child, hchild, rfl⟩)
  have hdots : isDots name.toList = false := by
    simp [isDots, hname.ne_empty, hname.ne_current, hname.ne_parent]
  rw [follow_cons, next, hdir]
  simp only [if_neg hname.ne_parent, hdots, Bool.false_eq_true, if_false, String.ofList_toList,
    hplace]
  split_ifs with hlong
  · rfl
  · cases child with
    | link target => exact absurd rfl (hlink target)
    | _ => cases links <;> rfl

theorem follow_nil (top : Node) (links : Nat) (place : Location) :
    follow top false links place [] = .ok place := by
  cases links <;> rfl

theorem next_nil (top : Node) (at_ : Location) :
    next top at_ [] = .ok (.place at_) ∨ next top at_ [] = .error .notADirectory := by
  unfold next
  split
  · exact .inl rfl
  · exact .inl rfl
  · exact .inr rfl

/-- A slash at the end of a path leads nowhere else. -/
theorem eq_of_follow_slash {links : Nat} {at_ : Location}
    (h : follow top false links at_ [[]] = .ok place) : at_ = place := by
  rw [follow_cons] at h
  rcases next_nil top at_ with hnext | hnext
  · rw [hnext] at h
    exact Except.ok.inj ((follow_nil top links at_).symm.trans h)
  · rw [hnext] at h
    cases h

/-- A path with a name at its end is followed from where the path without it leads. -/
theorem exists_follow_join (hresolve : top.resolve p = .ok place) (hname : Path.IsName name) :
    ∃ links, follow top false maxLinks [] (p.join ⟨name⟩).pieces =
      follow top false links place [name.toList] := by
  obtain ⟨-, hfollow⟩ := resolve_eq_ok_iff.mp hresolve
  rcases Path.pieces_join (p := p) hname with ⟨front, hpieces, hjoin⟩ | hjoin
  · rw [hpieces] at hfollow
    cases follow_append top maxLinks [] front with
    | fails e h => cases (h _).symm.trans hfollow
    | goesOn at_ links h =>
      -- the slash at the end of the path is gone when the name is put there
      obtain rfl := eq_of_follow_slash ((h _).symm.trans hfollow)
      exact ⟨links, hjoin ▸ h _⟩
  · rw [← List.append_nil p.pieces] at hfollow
    cases follow_append top maxLinks [] p.pieces with
    | fails e h => cases (h _).symm.trans hfollow
    | goesOn at_ links h =>
      have hnil := (h _).symm.trans hfollow
      rw [follow_nil] at hnil
      cases hnil
      exact ⟨links, hjoin ▸ h _⟩

/-- The system takes a name behind a path. -/
structure Admits (p : Path) (name : String) : Prop where
  path_le : Utf8.size (p.join ⟨name⟩).text.toList ≤ maxPath
  name_le : Utf8.size name.toList ≤ maxName
  no_nul : '\x00' ∉ name.toList

/-- What stands in a directory is found by its path, if the system takes the name there. -/
theorem resolve_join_iff (hresolve : top.resolve p = .ok place)
    (hdir : nodeAt? top place = some (.dir entries)) (hname : Path.IsName name)
    (hchild : (Node.dir entries).child? name = some child) (hlink : ∀ target, child ≠ .link target)
    {found : Location} :
    top.resolve (p.join ⟨name⟩) = .ok found ↔ found = name :: place ∧ Admits p name := by
  obtain ⟨hcheck, -⟩ := resolve_eq_ok_iff.mp hresolve
  obtain ⟨links, hjoin⟩ := exists_follow_join hresolve hname
  rw [resolve_eq_ok_iff, check_join hcheck hname, hjoin, follow_name hdir hname hchild hlink]
  split_ifs with hlong
  · exact iff_of_false (fun h => nomatch h.2) fun h => not_lt.mpr h.2.name_le hlong
  · constructor
    · rintro ⟨⟨hnul, hsize⟩, ⟨⟩⟩
      exact ⟨rfl, hsize, not_lt.mp hlong, hnul⟩
    · rintro ⟨rfl, hadmits⟩
      exact ⟨⟨hadmits.no_nul, hadmits.path_le⟩, rfl⟩

/-! ## 3. Directories that can be opened -/

/-- The system takes the path of what names lead to, and it takes each name. -/
structure WithinLimits (root : Path) (names : List String) : Prop where
  path_le : Utf8.size (root.below names).text.toList ≤ maxPath
  name_le : ∀ name ∈ names, Utf8.size name.toList ≤ maxName
  no_nul : ∀ name ∈ names, '\x00' ∉ name.toList

instance (root : Path) (names : List String) : Decidable (WithinLimits root names) :=
  decidable_of_iff (Utf8.size (root.below names).text.toList ≤ maxPath ∧
      (∀ name ∈ names, Utf8.size name.toList ≤ maxName) ∧ ∀ name ∈ names, '\x00' ∉ name.toList)
    ⟨fun ⟨h₁, h₂, h₃⟩ => ⟨h₁, h₂, h₃⟩, fun ⟨h₁, h₂, h₃⟩ => ⟨h₁, h₂, h₃⟩⟩

theorem size_le_join (p : Path) (hname : Path.IsName name) :
    Utf8.size p.text.toList ≤ Utf8.size (p.join ⟨name⟩).text.toList := by
  rcases Path.toList_join (p := p) hname with ⟨-, h⟩ | h
  · rw [h, Utf8.size_append]
    exact Nat.le_add_right _ _
  · rw [h, Utf8.size_append]
    exact Nat.le_add_right _ _

variable {root : Path} {names : List String}

/-- A path grows with each name, so that those on the way are within the limits if the last is. -/
theorem withinLimits_concat (hname : Path.IsName name) : WithinLimits root (names ++ [name]) ↔
    WithinLimits root names ∧ Admits (root.below names) name := by
  constructor
  · rintro ⟨hpath, hnames, hnul⟩
    obtain ⟨hnames, hlast⟩ := List.forall_mem_append.mp hnames
    obtain ⟨hnul, hnulLast⟩ := List.forall_mem_append.mp hnul
    rw [Path.below_concat] at hpath
    exact ⟨⟨(size_le_join _ hname).trans hpath, hnames, hnul⟩, hpath,
      hlast name List.mem_cons_self, hnulLast name List.mem_cons_self⟩
  · rintro ⟨⟨-, hnames, hnul⟩, hpath, hlast, hnulLast⟩
    exact ⟨by rwa [Path.below_concat],
      List.forall_mem_append.mpr ⟨hnames, List.forall_mem_singleton.mpr hlast⟩,
      List.forall_mem_append.mpr ⟨hnul, List.forall_mem_singleton.mpr hnulLast⟩⟩

end Resolve

namespace Node

open Resolve (Admits WithinLimits nodeAt? nodeAt?_below)

variable {top : Node} {root : Path} {place : Resolve.Location}
  {entries inner : List (String × Node)} {names : List String}

/-- A directory in another one can be opened exactly if the system takes its name there. -/
theorem opensDir_join_iff {p : Path} {name : String} (hresolve : top.resolve p = .ok place)
    (hdir : nodeAt? top place = some (dir entries)) (hname : Path.IsName name)
    (hchild : (dir entries).child? name = some (dir inner)) :
    top.opensDir (p.join ⟨name⟩) = true ↔ Admits p name := by
  have hplace : nodeAt? top (name :: place) = some (dir inner) :=
    (nodeAt?_below hdir [name]).trans (at?_cons.mpr ⟨_, hchild, rfl⟩)
  simp only [opensDir_iff, lookup_eq_ok_iff,
    Resolve.resolve_join_iff hresolve hdir hname hchild nofun]
  constructor
  · rintro ⟨-, -, ⟨-, hadmits⟩, -⟩
    exact hadmits
  · exact fun hadmits => ⟨inner, _, ⟨rfl, hadmits⟩, hplace⟩

/-- A directory below a root is found by its path if this is within the limits. -/
theorem resolve_below (hroot : top.resolve root = .ok place)
    (hdir : nodeAt? top place = some (dir entries)) (htree : (dir entries).WellFormed)
    (hat : (dir entries).at? names = some (dir inner)) (hlimits : WithinLimits root names) :
    top.resolve (root.below names) = .ok (names.reverse ++ place) := by
  -- each directory is found in the one before it
  induction names using List.reverseRecOn generalizing inner with
  | nil => exact hroot
  | append_singleton names name ih =>
    obtain ⟨outer, houter, hchild⟩ := exists_dir_of_at?_concat hat
    have hname := (htree.at houter).isName hchild
    obtain ⟨hlimits, hadmits⟩ := (Resolve.withinLimits_concat hname).mp hlimits
    have hplace := (nodeAt?_below hdir names).trans houter
    rw [Path.below_concat, List.reverse_concat]
    exact (Resolve.resolve_join_iff (ih houter hlimits) hplace hname hchild nofun).mpr ⟨rfl, hadmits⟩

/-- All directories on the way to a directory below a root can be opened exactly if its path and the
names in it are within the limits of the system. -/
theorem opensDir_below_iff (htree : top.WellFormed) (hroot : top.lookup root = .ok (dir entries))
    (hat : (dir entries).at? names = some (dir inner)) :
    (∀ outer, outer <+: names → top.opensDir (root.below outer) = true) ↔
      WithinLimits root names := by
  obtain ⟨place, hresolve, hdir⟩ := lookup_eq_ok_iff.mp hroot
  have hbelow := htree.lookup hroot
  induction names using List.reverseRecOn generalizing inner with
  | nil =>
    have hcheck := Resolve.check_eq_ok_iff.mp (Resolve.resolve_eq_ok_iff.mp hresolve).1
    refine iff_of_true (fun outer houter => ?_) ⟨hcheck.2.2, by simp, by simp⟩
    rw [List.prefix_nil.mp houter]
    exact opensDir_iff.mpr ⟨entries, hroot⟩
  | append_singleton names name ih =>
    obtain ⟨outer, houter, hchild⟩ := exists_dir_of_at?_concat hat
    have hname := (hbelow.at houter).isName hchild
    simp only [List.prefix_concat_iff, forall_eq_or_imp]
    rw [Resolve.withinLimits_concat hname, Path.below_concat]
    -- the last directory is opened from the one before it, which is within the limits by then
    refine and_comm.trans ((and_congr_left' (ih houter)).trans (and_congr_right fun hlimits => ?_))
    exact opensDir_join_iff (resolve_below hresolve hdir hbelow houter hlimits)
      ((nodeAt?_below hdir names).trans houter) hname hchild

end Node

end SecretScan
