import SecretScan.Files.Walk
import SecretScan.Proofs.Files.Path

/-!
# Candidates come in order

In a tree whose directories have no name twice, no two candidates are the same path, so that the
candidates are strictly in order (`Walker.pairwise_walk`).
-/

namespace SecretScan

/-! ## 1. Trees as file systems have them -/

/-- In every directory, the entries have names of their own. -/
inductive Node.WellFormed : Node → Prop
  | file (content : Bytes) : WellFormed (.file content)
  | link (target : String) : WellFormed (.link target)
  | lockedFile : WellFormed .lockedFile
  | lockedDir : WellFormed .lockedDir
  | dir {entries : List (String × Node)} (hdistinct : (entries.map Prod.fst).Nodup)
      (hnames : ∀ entry ∈ entries, Path.IsName entry.1)
      (hnodes : ∀ entry ∈ entries, WellFormed entry.2) : WellFormed (.dir entries)

namespace Node

theorem at?_cons {node : Node} {name : String} {names : List String} {found : Node} :
    node.at? (name :: names) = some found ↔
      ∃ child, node.child? name = some child ∧ child.at? names = some found := by
  rw [at?]
  cases node.child? name <;> simp

theorem at?_append (node : Node) (names below : List String) :
    node.at? (names ++ below) = (node.at? names).bind (·.at? below) := by
  induction names generalizing node with
  | nil => rfl
  | cons name names ih =>
    rw [List.cons_append, at?, at?]
    cases node.child? name with
    | none => rfl
    | some child => exact ih child

/-- What stands in a directory is reached through the directory. -/
theorem exists_dir_of_at?_concat {node found : Node} {names : List String} {name : String}
    (h : node.at? (names ++ [name]) = some found) : ∃ entries,
      node.at? names = some (dir entries) ∧ (dir entries).child? name = some found := by
  rw [at?_append, Option.bind_eq_some_iff] at h
  obtain ⟨parent, hparent, hat⟩ := h
  obtain ⟨child, hchild, hfound⟩ := at?_cons.mp hat
  cases hfound
  cases parent with
  | dir entries => exact ⟨entries, hparent, hchild⟩
  | _ => cases hchild

theorem WellFormed.child {node child : Node} {name : String} (h : node.WellFormed)
    (hchild : node.child? name = some child) : child.WellFormed := by
  cases h with
  | dir _ _ hnodes =>
    obtain ⟨entry, hentry, rfl⟩ := Option.map_eq_some_iff.mp hchild
    exact hnodes entry (List.mem_of_find?_eq_some hentry)
  | _ => cases hchild

theorem WellFormed.isName {node child : Node} {name : String} (h : node.WellFormed)
    (hchild : node.child? name = some child) : Path.IsName name := by
  cases h with
  | dir _ hnames =>
    obtain ⟨entry, hfind, -⟩ := Option.map_eq_some_iff.mp hchild
    have hname : entry.1 = name := by simpa using List.find?_some hfind
    exact hname ▸ hnames entry (List.mem_of_find?_eq_some hfind)
  | _ => cases hchild

/-- Names that lead anywhere are names. -/
theorem WellFormed.isName_of_mem {node found : Node} {names : List String} (h : node.WellFormed)
    (hat : node.at? names = some found) : ∀ name ∈ names, Path.IsName name := by
  induction names generalizing node with
  | nil => exact List.forall_mem_nil _
  | cons name names ih =>
    obtain ⟨child, hchild, hbelow⟩ := at?_cons.mp hat
    exact List.forall_mem_cons.mpr ⟨h.isName hchild, ih (h.child hchild) hbelow⟩

theorem WellFormed.at {node found : Node} {names : List String} (h : node.WellFormed)
    (hat : node.at? names = some found) : found.WellFormed := by
  induction names generalizing node with
  | nil =>
    cases hat
    exact h
  | cons name names ih =>
    obtain ⟨child, hchild, hbelow⟩ := at?_cons.mp hat
    exact ih (h.child hchild) hbelow

theorem lookup_eq_ok_iff {top node : Node} {p : Path} : top.lookup p = .ok node ↔
    ∃ place, top.resolve p = .ok place ∧ Resolve.nodeAt? top place = some node := by
  rw [lookup]
  cases top.resolve p with
  | error e => exact iff_of_false nofun (by rintro ⟨_, ⟨⟩, -⟩)
  | ok place =>
    simp only [bind, Except.bind]
    cases hnode : Resolve.nodeAt? top place with
    | none => exact iff_of_false nofun (by rintro ⟨_, ⟨⟩, h⟩; rw [hnode] at h; cases h)
    | some found =>
      constructor
      · rintro ⟨⟩
        exact ⟨place, rfl, hnode⟩
      · rintro ⟨_, ⟨⟩, h⟩
        rw [← hnode, h]

theorem opensDir_iff {top : Node} {p : Path} :
    top.opensDir p = true ↔ ∃ entries, top.lookup p = .ok (.dir entries) := by
  rw [opensDir]
  split
  next entries h => exact iff_of_true rfl ⟨entries, h⟩
  next h =>
    exact iff_of_false Bool.false_ne_true fun ⟨entries, hlookup⟩ => h entries hlookup

theorem WellFormed.lookup {top node : Node} {p : Path} (h : top.WellFormed)
    (hlookup : top.lookup p = .ok node) : node.WellFormed := by
  obtain ⟨location, -, hnode⟩ := lookup_eq_ok_iff.mp hlookup
  exact h.at hnode

end Node

/-! ## 2. Files below a directory -/

variable {top : Node} {excluded : List String} {path : Path}

/-- The files in or below one entry of the directory with a path. -/
def filesOfEntry (top : Node) (excluded : List String) (path : Path) (entry : String × Node) :
    List (List String) :=
  if excluded.contains entry.1 then []
  else (top.filesWithout excluded (path.join ⟨entry.1⟩) entry.2).map (entry.1 :: ·)

theorem entryFiles_eq (top : Node) (excluded : List String) (path : Path)
    (entries : List (String × Node)) :
    entryFiles top excluded path entries = entries.flatMap (filesOfEntry top excluded path) := by
  induction entries with
  | nil => rfl
  | cons entry rest ih =>
    rw [entryFiles, List.flatMap_cons, ih, filesOfEntry]

theorem mem_filesOfEntry {entry : String × Node} {names : List String} :
    names ∈ filesOfEntry top excluded path entry ↔ entry.1 ∉ excluded ∧
      ∃ below ∈ top.filesWithout excluded (path.join ⟨entry.1⟩) entry.2,
        entry.1 :: below = names := by
  rw [filesOfEntry]
  split_ifs with hexcluded
  · exact iff_of_false List.not_mem_nil fun h => h.1 (by simpa using hexcluded)
  · rw [List.mem_map]
    exact (and_iff_right (by simpa using hexcluded)).symm

/-- The lists of names that lead to files are distinct, and they are made of names. -/
theorem Node.WellFormed.files {node : Node} (h : node.WellFormed) (top : Node)
    (excluded : List String) (path : Path) :
    (top.filesWithout excluded path node).Nodup ∧
      ∀ names ∈ top.filesWithout excluded path node, ∀ name ∈ names, Path.IsName name := by
  induction h generalizing path with
  | @dir entries hdistinct hnames hnodes ih =>
    rw [Node.filesWithout, entryFiles_eq]
    split_ifs
    · refine ⟨List.nodup_flatMap.mpr ⟨fun entry hentry => ?_, ?_⟩, fun names hmem => ?_⟩
      · rw [filesOfEntry]
        split_ifs
        · exact List.nodup_nil
        · exact (ih entry hentry _).1.map (List.cons_injective)
      · -- files of different entries differ in their first name
        refine (List.pairwise_map.mp hdistinct).imp fun {a b} hab names ha hb => hab ?_
        obtain ⟨-, below, -, rfl⟩ := mem_filesOfEntry.mp ha
        obtain ⟨-, below', -, heq⟩ := mem_filesOfEntry.mp hb
        exact (List.cons.inj heq).1.symm
      · obtain ⟨entry, hentry, hfile⟩ := List.mem_flatMap.mp hmem
        obtain ⟨-, below, hbelow, rfl⟩ := mem_filesOfEntry.mp hfile
        exact List.forall_mem_cons.mpr ⟨hnames entry hentry, (ih entry hentry _).2 below hbelow⟩
    · simp
  -- nothing is below the other nodes
  | _ => simp [Node.filesWithout]

/-! ## 3. Candidates -/

/-- Candidates are strictly in order. -/
theorem Walker.pairwise_walk (w : Walker) {top : Node} (h : top.WellFormed) (root : Path) :
    (w.walk top root).Pairwise fun p q => p.key < q.key := by
  rw [walk]
  split_ifs
  · exact List.Pairwise.nil
  split
  next entries hlookup =>
    have hopens : top.opensDir root = true := Node.opensDir_iff.mpr ⟨entries, hlookup⟩
    obtain ⟨hnodup, hnames⟩ := (h.lookup hlookup).files top w.excluded root
    rw [Node.filesWithout, if_pos hopens] at hnodup hnames
    set paths := ((entryFiles top w.excluded root entries).map Path.ofNames).filter
      (hasExtension · w.extensions) with hpaths
    -- no two files have the same key
    have hkeys : paths.Pairwise fun p q => p.key ≠ q.key := by
      refine List.Pairwise.filter _ (List.pairwise_map.mpr ?_)
      refine hnodup.imp_of_mem fun {ms ns} hms hns hne hkey => hne ?_
      exact Path.ofNames_key_inj (hnames ms hms) (hnames ns hns) hkey
    have hsorted : (paths.mergeSort Path.le).Pairwise fun p q => p.le q = true :=
      List.pairwise_mergeSort Path.trans Path.total paths
    have hdistinct : (paths.mergeSort Path.le).Pairwise fun p q => p.key ≠ q.key :=
      hkeys.perm (List.mergeSort_perm paths Path.le).symm Ne.symm
    exact hsorted.imp₂ (fun p q hle hne => lt_of_le_of_ne (Path.le_iff.mp hle) hne) hdistinct
  next => exact List.Pairwise.nil

end SecretScan
