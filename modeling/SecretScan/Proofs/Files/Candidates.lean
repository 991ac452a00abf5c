import SecretScan.Proofs.Files.Opening

/-!
# The candidates are the eligible files

Leaving out an excluded directory with all that is below it comes to the same as listing all files
and then dropping those with an excluded name in their path.  So the candidates are exactly the files
in directories that can be opened, without an excluded name, whose path ends with an extension
(`Walker.walk_exact`).  The one exception is a directory whose path is that of the standard input: it
has no candidates (`Walker.walk_dash_misses`).
-/

namespace SecretScan

/-! ## 1. Files below a node -/

namespace Node

/-- If names are distinct, the entry with a name is the one that is found under it. -/
theorem child?_eq_some_iff {entries : List (String × Node)} {name : String} {node : Node}
    (hdistinct : (entries.map Prod.fst).Nodup) :
    (dir entries).child? name = some node ↔ (name, node) ∈ entries := by
  constructor
  · intro hchild
    obtain ⟨⟨name', node'⟩, hfind, rfl⟩ := Option.map_eq_some_iff.mp hchild
    have hname : name' = name := by simpa using List.find?_some hfind
    exact hname ▸ List.mem_of_find?_eq_some hfind
  · intro hmem
    have hsome : (entries.find? (·.1 == name)).isSome :=
      List.find?_isSome.mpr ⟨(name, node), hmem, by simp⟩
    obtain ⟨entry, hfind⟩ := Option.isSome_iff_exists.mp hsome
    have hname : entry.1 = name := by simpa using List.find?_some hfind
    -- only one entry has this name
    have hentry : entry = (name, node) :=
      List.inj_on_of_nodup_map hdistinct (List.mem_of_find?_eq_some hfind) hmem hname
    rw [child?, hfind, hentry, Option.map_some]

/-- What holds on the way to something below an entry holds for the directory and below the entry. -/
theorem forall_outer_cons {P : List String → Prop} {name : String} {names : List String} :
    (∀ outer, outer <+: name :: names → outer ≠ name :: names → P outer) ↔
      P [] ∧ ∀ outer, outer <+: names → outer ≠ names → P (name :: outer) := by
  constructor
  · intro h
    refine ⟨h [] List.nil_prefix nofun, fun outer houter hne => h _ ?_ ?_⟩
    · exact List.cons_prefix_cons.mpr ⟨rfl, houter⟩
    · exact fun heq => hne (List.cons.inj heq).2
  · rintro ⟨hnil, hcons⟩ outer houter hne
    cases outer with
    | nil => exact hnil
    | cons n outer =>
      obtain ⟨rfl, hbelow⟩ := List.cons_prefix_cons.mp houter
      exact hcons outer hbelow fun heq => hne (congrArg _ heq)

/-- What holds on the way to something in a directory holds on the way to the directory and for the
directory itself. -/
theorem forall_outer_concat {P : List String → Prop} {name : String} {names : List String} :
    (∀ outer, outer <+: names ++ [name] → outer ≠ names ++ [name] → P outer) ↔
      ∀ outer, outer <+: names → P outer := by
  refine forall_congr' fun outer => ?_
  rw [List.prefix_concat_iff, or_imp]
  refine ⟨fun h houter => h.2 houter fun heq => ?_, fun h => ⟨absurd, fun houter _ => h houter⟩⟩
  have hlength := (heq ▸ houter).length_le
  rw [List.length_append, List.length_singleton] at hlength
  omega

/-- The files that are left when excluded names are pruned and directories that cannot be opened are
skipped are those that can be reached without such a name through directories that can be opened. -/
theorem WellFormed.mem_files_iff {node : Node} (h : node.WellFormed) {top : Node} {path : Path}
    {excluded names : List String} : names ∈ top.filesWithout excluded path node ↔
      (∃ found, node.at? names = some found ∧ found.isFile = true) ∧
      (∀ outer, outer <+: names → outer ≠ names → top.opensDir (path.below outer) = true) ∧
      ∀ name ∈ names, name ∉ excluded := by
  induction h generalizing path names with
  | @dir entries hdistinct hnames hnodes ih =>
    rw [filesWithout, entryFiles_eq]
    -- a file below an entry is reached through the child of that name
    constructor
    · split_ifs with hopens
      · rw [List.mem_flatMap]
        rintro ⟨entry, hentry, hfile⟩
        obtain ⟨hkept, below, hbelow, rfl⟩ := mem_filesOfEntry.mp hfile
        obtain ⟨⟨found, hat, hisFile⟩, hway, hclean⟩ := (ih entry hentry).mp hbelow
        refine ⟨⟨found, at?_cons.mpr ⟨entry.2, ?_, hat⟩, hisFile⟩,
          forall_outer_cons.mpr ⟨hopens, hway⟩, List.forall_mem_cons.mpr ⟨hkept, hclean⟩⟩
        exact (child?_eq_some_iff hdistinct).mpr hentry
      · exact fun hmem => absurd hmem List.not_mem_nil
    · rintro ⟨⟨found, hat, hisFile⟩, hway, hclean⟩
      cases names with
      | nil =>
        cases hat
        cases hisFile
      | cons name below =>
        obtain ⟨hopens, hway⟩ := forall_outer_cons.mp hway
        obtain ⟨hkept, hclean⟩ := List.forall_mem_cons.mp hclean
        obtain ⟨child, hchild, hat⟩ := at?_cons.mp hat
        have hentry := (child?_eq_some_iff hdistinct).mp hchild
        rw [if_pos (show top.opensDir path = true from hopens), List.mem_flatMap]
        exact ⟨(name, child), hentry, mem_filesOfEntry.mpr
          ⟨hkept, below, (ih _ hentry).mpr ⟨⟨found, hat, hisFile⟩, hway, hclean⟩, rfl⟩⟩
  -- nothing is below the other nodes
  | _ =>
    cases names with
    | nil => simp [filesWithout, at?, isFile]
    | cons name names => simp [filesWithout, at?, child?]

end Node

/-! ## 2. Extensions -/

theorem Lowercase.ofString_eq_empty_iff {s : String} : ofString s = "" ↔ s = "" := by
  have hchars : ∀ cs, ofChars cs = [] ↔ cs = [] := by
    intro cs
    cases cs with
    | nil => exact iff_of_true rfl rfl
    | cons c cs =>
      refine iff_of_false (fun hempty => ?_) (List.cons_ne_nil c cs)
      have hfirst := (List.append_eq_nil_iff.mp hempty).1
      split_ifs at hfirst
      unfold ofChar at hfirst
      split_ifs at hfirst
      split at hfirst <;> cases hfirst
  rw [ofString, ← String.toList_inj, String.toList_ofList, ← String.toList_inj, String.toList_empty,
    hchars]

namespace Walker

/-- An accepted path ends with one of the extensions that are not empty, if case is ignored. -/
theorem hasExtension_ofLists {p : Path} {extensions excluded : List String} :
    hasExtension p (ofLists extensions excluded).extensions = true ↔
      ∃ e ∈ extensions, e ≠ "" ∧
        (Lowercase.ofString e).toList <:+ Lowercase.ofChars p.text.toList := by
  simp only [hasExtension, ofLists, List.any_eq_true, List.mem_filter, List.mem_map,
    List.isSuffixOf_iff_suffix, bne_iff_ne, ne_eq]
  constructor
  · rintro ⟨_, ⟨⟨e, he, rfl⟩, hne⟩, hsuffix⟩
    exact ⟨e, he, fun hempty => hne (Lowercase.ofString_eq_empty_iff.mpr hempty), hsuffix⟩
  · rintro ⟨e, he, hne, hsuffix⟩
    exact ⟨_, ⟨⟨e, he, rfl⟩, fun hempty => hne (Lowercase.ofString_eq_empty_iff.mp hempty)⟩, hsuffix⟩

/-! ## 3. Candidates -/

variable {extensions excluded : List String} {top node : Node} {root : Path}
  {entries : List (String × Node)}

/-- The files that a walk comes to are those in a directory whose path and whose names are within the
limits of the system, if no directory on the way is locked. -/
theorem mem_entryFiles (htree : top.WellFormed) (hroot : top.lookup root = .ok (.dir entries))
    {names : List String} : names ∈ entryFiles top excluded root entries ↔
      (∃ found, (Node.dir entries).at? names = some found ∧ found.isFile = true) ∧
      Resolve.WithinLimits root names.dropLast ∧ ∀ name ∈ names, name ∉ excluded := by
  have hopens : top.opensDir root = true := Node.opensDir_iff.mpr ⟨entries, hroot⟩
  have hentries : top.filesWithout excluded root (.dir entries) =
      entryFiles top excluded root entries := by rw [Node.filesWithout, if_pos hopens]
  rw [← hentries, (htree.lookup hroot).mem_files_iff]
  refine and_congr_right fun hfile => and_congr_left' ?_
  obtain ⟨found, hat, hisFile⟩ := hfile
  -- the root is no file, so a file lies in a directory
  rcases List.eq_nil_or_concat' names with rfl | ⟨outer, name, rfl⟩
  · cases hat
    cases hisFile
  · obtain ⟨inner, houter, -⟩ := Node.exists_dir_of_at?_concat hat
    rw [List.dropLast_concat]
    exact Node.forall_outer_concat.trans (Node.opensDir_below_iff htree hroot houter)

/-- The candidates below a directory.  If it is locked, no names lead to a file below it. -/
theorem mem_walk (htree : top.WellFormed) (hroot : top.lookup root = .ok node)
    (hdir : node.isDir = true) (hdash : root.same standardInput = false) {p : Path} :
    p ∈ (ofLists extensions excluded).walk top root ↔
      ∃ names, p = Path.ofNames names ∧
        (∃ found, node.at? names = some found ∧ found.isFile = true) ∧
        Resolve.WithinLimits root names.dropLast ∧
        (∀ name ∈ names, name ∉ excluded) ∧
        ∃ e ∈ extensions, e ≠ "" ∧
          (Lowercase.ofString e).toList <:+ Lowercase.ofChars p.text.toList := by
  rw [walk, hdash, if_neg Bool.false_ne_true, hroot]
  cases node with
  | dir entries =>
    simp only [List.mem_mergeSort, List.mem_filter, List.mem_map, hasExtension_ofLists]
    constructor
    · rintro ⟨⟨names, hmem, rfl⟩, hextension⟩
      obtain ⟨hfile, hlimits, hclean⟩ := (mem_entryFiles htree hroot).mp hmem
      exact ⟨names, rfl, hfile, hlimits, hclean, hextension⟩
    · rintro ⟨names, rfl, hfile, hlimits, hclean, hextension⟩
      exact ⟨⟨names, (mem_entryFiles htree hroot).mpr ⟨hfile, hlimits, hclean⟩, rfl⟩, hextension⟩
  | lockedDir =>
    refine iff_of_false List.not_mem_nil ?_
    rintro ⟨names, -, ⟨found, hat, hisFile⟩, -⟩
    cases names with
    | nil =>
      cases hat
      cases hisFile
    | cons name names => cases hat
  | _ => cases hdir

/-- The path of names is a candidate because of what these names lead to. -/
theorem mem_walk_ofNames (htree : top.WellFormed) (hroot : top.lookup root = .ok node)
    (hdir : node.isDir = true) (hdash : root.same standardInput = false) {names : List String}
    (hnames : ∀ name ∈ names, Path.IsName name) :
    Path.ofNames names ∈ (ofLists extensions excluded).walk top root ↔
      (∃ found, node.at? names = some found ∧ found.isFile = true) ∧
        Resolve.WithinLimits root names.dropLast ∧
        (∀ name ∈ names, name ∉ excluded) ∧
        ∃ e ∈ extensions, e ≠ "" ∧
          (Lowercase.ofString e).toList <:+ Lowercase.ofChars (Path.ofNames names).text.toList := by
  rw [mem_walk htree hroot hdir hdash]
  constructor
  · rintro ⟨names', heq, ⟨found, hat, hisFile⟩, h⟩
    -- different names have different paths
    obtain rfl := Path.ofNames_key_inj hnames ((htree.lookup hroot).isName_of_mem hat)
      (congrArg Path.key heq)
    exact ⟨⟨found, hat, hisFile⟩, h⟩
  · exact fun h => ⟨names, rfl, h⟩

end Walker

/-- Whether one of the names is a part of the path. -/
def Path.hasNameIn (names : List String) (p : Path) : Bool :=
  p.parts.any fun
    | .name n => names.contains (String.ofList n)
    | _ => false

theorem Path.hasNameIn_ofNames {names excluded : List String} (h : ∀ name ∈ names, IsName name) :
    (ofNames names).hasNameIn excluded = false ↔ ∀ name ∈ names, name ∉ excluded := by
  rw [hasNameIn, parts_ofNames h, List.any_map, List.any_eq_false]
  refine forall₂_congr fun name _ => ?_
  simp

namespace Walker

variable {extensions excluded : List String} {top node : Node} {root : Path}

/-- Leaving out directories on the way comes to the same as dropping files afterwards. -/
theorem walk_eq_filter (htree : top.WellFormed) (hroot : top.lookup root = .ok node)
    (hdir : node.isDir = true) (hdash : root.same standardInput = false) :
    (ofLists extensions excluded).walk top root =
      ((ofLists extensions []).walk top root).filter fun p => !p.hasNameIn excluded := by
  have hsorted := (ofLists extensions excluded).pairwise_walk htree root
  have hsorted' := ((ofLists extensions []).pairwise_walk htree root).filter
    fun p => !p.hasNameIn excluded
  have hnodup : ∀ {ps : List Path}, (ps.Pairwise fun p q => p.key < q.key) → ps.Nodup :=
    fun h => h.imp fun hlt heq => (heq ▸ hlt).false
  have hnames : ∀ names found, node.at? names = some found →
      ∀ name ∈ names, Path.IsName name := fun names found hat =>
    (htree.lookup hroot).isName_of_mem hat
  -- both lists are in order and have the same members
  refine List.Perm.eq_of_pairwise (fun p q _ _ hpq hqp => absurd hpq hqp.asymm) hsorted hsorted'
    ((List.perm_ext_iff_of_nodup (hnodup hsorted) (hnodup hsorted')).mpr fun p => ?_)
  rw [List.mem_filter, mem_walk htree hroot hdir hdash, mem_walk htree hroot hdir hdash]
  constructor
  · rintro ⟨names, rfl, ⟨found, hat, hisFile⟩, hlimits, hclean, hextension⟩
    refine ⟨⟨names, rfl, ⟨found, hat, hisFile⟩, hlimits, by simp, hextension⟩, ?_⟩
    rw [(Path.hasNameIn_ofNames (hnames names found hat)).mpr hclean, Bool.not_false]
  · rintro ⟨⟨names, rfl, ⟨found, hat, hisFile⟩, hlimits, -, hextension⟩, hclean⟩
    refine ⟨names, rfl, ⟨found, hat, hisFile⟩, hlimits, ?_, hextension⟩
    exact (Path.hasNameIn_ofNames (hnames names found hat)).mp (by simpa using hclean)

/-- Below a directory whose path is not that of the standard input, the candidates are the files in
directories that can be opened, without an excluded name, whose path ends with an extension if case is
ignored; they come strictly in order, and they are what is left of the candidates without excluded
names when the paths with such a name are dropped.  Names lead neither through links nor through
locked directories, and what else keeps a directory from being opened is the length of its path and of
the names in it. -/
theorem walk_exact (extensions excluded : List String) (htree : top.WellFormed)
    (hroot : top.lookup root = .ok node) (hdir : node.isDir = true)
    (hdash : root.same standardInput = false) :
    (∀ p, p ∈ (ofLists extensions excluded).walk top root ↔
      ∃ names, p = Path.ofNames names ∧
        (∃ found, node.at? names = some found ∧ found.isFile = true) ∧
        Resolve.WithinLimits root names.dropLast ∧
        (∀ name ∈ names, name ∉ excluded) ∧
        ∃ e ∈ extensions, e ≠ "" ∧
          (Lowercase.ofString e).toList <:+ Lowercase.ofChars p.text.toList) ∧
    ((ofLists extensions excluded).walk top root).Nodup ∧
    ((ofLists extensions excluded).walk top root).Pairwise (fun p q => p.lt q = true) ∧
    (ofLists extensions excluded).walk top root =
      ((ofLists extensions []).walk top root).filter fun p => !p.hasNameIn excluded := by
  have hsorted := (ofLists extensions excluded).pairwise_walk htree root
  exact ⟨fun p => mem_walk htree hroot hdir hdash, hsorted.imp fun hlt heq => (heq ▸ hlt).false,
    hsorted.imp fun hlt => Path.lt_iff.mpr hlt, walk_eq_filter htree hroot hdir hdash⟩

/-- The entries of a directory with a file in a directory, a locked directory, a file in a directory
of the name `vendor`, and a link to the first file. -/
def vendorEntries : List (String × Node) :=
  [("b", .dir [("z.PY", .file [])]), ("locked", .lockedDir), ("vendor", .dir [("x.py", .file [])]),
    ("y.py", .link "b/z.PY")]

/-- The name of the root is not looked at, unlike those below it.  A locked directory is skipped. -/
theorem walk_exact_vendor :
    (Node.dir [("vendor", .dir vendorEntries)]).WellFormed ∧
    (Node.dir [("vendor", .dir vendorEntries)]).lookup ⟨"./vendor"⟩ = .ok (.dir vendorEntries) ∧
    Path.same ⟨"./vendor"⟩ standardInput = false ∧
    ⟨"b/z.PY"⟩ ∈ (ofLists [".py"] ["vendor"]).walk (.dir [("vendor", .dir vendorEntries)])
      ⟨"./vendor"⟩ ∧
    ⟨"vendor/x.py"⟩ ∉ (ofLists [".py"] ["vendor"]).walk (.dir [("vendor", .dir vendorEntries)])
      ⟨"./vendor"⟩ := by
  have hentries : (Node.dir vendorEntries).WellFormed := by
    refine .dir (by decide) (by decide) (List.forall_mem_cons.mpr ⟨?_, List.forall_mem_cons.mpr
      ⟨.lockedDir, List.forall_mem_cons.mpr ⟨?_, List.forall_mem_singleton.mpr (.link _)⟩⟩⟩)
    · exact .dir (by decide) (by decide) (List.forall_mem_singleton.mpr (.file _))
    · exact .dir (by decide) (by decide) (List.forall_mem_singleton.mpr (.file _))
  have htree : (Node.dir [("vendor", .dir vendorEntries)]).WellFormed :=
    .dir (by decide) (by decide) (List.forall_mem_singleton.mpr hentries)
  have hroot : (Node.dir [("vendor", .dir vendorEntries)]).lookup ⟨"./vendor"⟩ =
      .ok (.dir vendorEntries) := rfl
  have hdash : Path.same ⟨"./vendor"⟩ standardInput = false := by decide
  obtain ⟨hmem, -, -, hfilter⟩ := walk_exact [".py"] ["vendor"] htree hroot rfl hdash
  refine ⟨htree, hroot, hdash, (hmem _).mpr ⟨["b", "z.PY"], by decide, ⟨_, rfl, rfl⟩,
    by decide, by decide, ".py", by decide, by decide, by decide +kernel⟩, fun hvendor => ?_⟩
  rw [hfilter] at hvendor
  exact absurd (List.mem_filter.mp hvendor).2 (by decide)

/-- A directory with the path of the standard input has no candidates, even if there is an eligible
file in it. -/
theorem walk_dash_misses :
    (Node.dir [("-", .dir [("a.py", .file [])])]).WellFormed ∧
    (Node.dir [("-", .dir [("a.py", .file [])])]).lookup ⟨"-"⟩ = .ok (.dir [("a.py", .file [])]) ∧
    ⟨"a.py"⟩ ∉ (ofLists [".py"] []).walk (.dir [("-", .dir [("a.py", .file [])])]) ⟨"-"⟩ ∧
    ∃ names, ⟨"a.py"⟩ = Path.ofNames names ∧
      (∃ content, (Node.dir [("a.py", .file [])]).at? names = some (.file content)) ∧
      (∀ name ∈ names, name ∉ []) ∧
      ∃ e ∈ [".py"], e ≠ "" ∧ (Lowercase.ofString e).toList <:+ Lowercase.ofChars "a.py".toList := by
  refine ⟨.dir (by decide) (by decide) (List.forall_mem_singleton.mpr (.dir (by decide) (by decide)
    (List.forall_mem_singleton.mpr (.file _)))), rfl, fun hmem => ?_, ["a.py"], by decide,
    ⟨[], rfl⟩, by decide, ".py", by decide, by decide, by decide +kernel⟩
  have hdash : Path.same ⟨"-"⟩ standardInput = true := by decide
  rw [walk, if_pos hdash] at hmem
  cases hmem

end Walker

end SecretScan
