import SecretScan.Proofs.Files.Candidates
import SecretScan.Proofs.Text.Lowercase

/-!
# Paths that end with an extension

A path that ends with an extension as it is spelled is accepted, unless the extension cuts a word in
front of a final sigma (`Walker.accepts_suffix_iff`).
-/

namespace SecretScan.Walker

open Lowercase (CutsWord)

theorem hasExtension_singleton {p : Path} {e : String} {front back : List Char}
    (hp : p.text.toList = front ++ back)
    (hback : back.map Char.toLower = e.toList.map Char.toLower) :
    hasExtension p [Lowercase.ofString e] = true ↔ ¬ CutsWord front e.toList := by
  rw [hasExtension, List.any_cons, List.any_nil, Bool.or_false, List.isSuffixOf_iff_suffix,
    Lowercase.ofString, String.toList_ofList, hp]
  exact Lowercase.ofChars_suffix_iff hback

/-- A path that ends with an extension, as it is spelled or up to the case of ASCII letters, is
accepted exactly if the extension does not cut a word in front of a final sigma.  A file with this
path that no excluded name keeps out is then a candidate exactly if the directory in which it lies is
within the limits of the system, so that it can be opened. -/
theorem accepts_suffix_iff {p : Path} {e : String} {front back : List Char}
    (hp : p.text.toList = front ++ back)
    (hback : back.map Char.toLower = e.toList.map Char.toLower) :
    (hasExtension p [Lowercase.ofString e] = true ↔ ¬ CutsWord front e.toList) ∧
    ∀ {top node found : Node} {root : Path} {excluded names : List String}, e ≠ "" →
      top.WellFormed → top.lookup root = .ok node → node.isDir = true →
      root.same standardInput = false → p = Path.ofNames names →
      node.at? names = some found → found.isFile = true → (∀ name ∈ names, name ∉ excluded) →
      (p ∈ (ofLists [e] excluded).walk top root ↔
        Resolve.WithinLimits root names.dropLast ∧ ¬ CutsWord front e.toList) := by
  refine ⟨hasExtension_singleton hp hback,
    fun hne htree hroot hdir hdash hnames hat hisFile hclean => ?_⟩
  subst hnames
  -- the directory and the end of the path are the only conditions left
  rw [mem_walk_ofNames htree hroot hdir hdash ((htree.lookup hroot).isName_of_mem hat),
    ← Lowercase.ofChars_suffix_iff hback, ← hp]
  constructor
  · rintro ⟨-, hlimits, -, e', he', -, hsuffix⟩
    obtain rfl := List.mem_singleton.mp he'
    rw [Lowercase.ofString, String.toList_ofList] at hsuffix
    exact ⟨hlimits, hsuffix⟩
  · rintro ⟨hlimits, hsuffix⟩
    refine ⟨⟨_, hat, hisFile⟩, hlimits, hclean, e, List.mem_singleton_self e, hne, ?_⟩
    rwa [Lowercase.ofString, String.toList_ofList]

/-- A sigma at the end of a word is found if the word begins in the extension. -/
theorem accepts_suffix_word :
    ".pΣ".toList.map Char.toLower = ".PΣ".toList.map Char.toLower ∧
    ¬ CutsWord "b/x".toList ".PΣ".toList ∧
    hasExtension ⟨"b/x.pΣ"⟩ [Lowercase.ofString ".PΣ"] = true ∧
    ⟨"b/x.pΣ"⟩ ∈ (ofLists [".PΣ"] ["c"]).walk (.dir [("b", .dir [("x.pΣ", .file [])])]) ⟨"."⟩ := by
  have htree : (Node.dir [("b", .dir [("x.pΣ", .file [])])]).WellFormed :=
    .dir (by decide) (by decide) (List.forall_mem_singleton.mpr
      (.dir (by decide) (by decide) (List.forall_mem_singleton.mpr (.file _))))
  have htext : (Path.text ⟨"b/x.pΣ"⟩).toList = "b/x".toList ++ ".pΣ".toList := by decide
  have hback : ".pΣ".toList.map Char.toLower = ".PΣ".toList.map Char.toLower := by decide
  have hcut : ¬ CutsWord "b/x".toList ".PΣ".toList := by decide +kernel
  have hfile : (Node.dir [("b", .dir [("x.pΣ", .file [])])]).at? ["b", "x.pΣ"] =
      some (.file []) := rfl
  have hlimits : Resolve.WithinLimits ⟨"."⟩ ["b"] := by decide
  obtain ⟨hextension, hwalk⟩ := accepts_suffix_iff htext hback
  exact ⟨hback, hcut, hextension.mpr hcut,
    (hwalk (by decide) htree rfl rfl (by decide) (by decide) hfile rfl (by decide)).mpr
      ⟨hlimits, hcut⟩⟩

/-- A sigma on its own is not found after a letter, because it has its final form there. -/
theorem sigma_suffix_missed :
    "aΣ".toList = "a".toList ++ "Σ".toList ∧
    hasExtension ⟨"aΣ"⟩ [Lowercase.ofString "Σ"] = false ∧
    (Node.dir [("aΣ", .file [])]).WellFormed ∧
    (Node.dir [("aΣ", .file [])]).lookup ⟨"."⟩ = .ok (.dir [("aΣ", .file [])]) ∧
    Path.same ⟨"."⟩ standardInput = false ∧
    ⟨"aΣ"⟩ ∉ (ofLists ["Σ"] []).walk (.dir [("aΣ", .file [])]) ⟨"."⟩ := by
  have htree : (Node.dir [("aΣ", .file [])]).WellFormed :=
    .dir (by decide) (by decide) (List.forall_mem_singleton.mpr (.file _))
  refine ⟨by decide, by decide +kernel, htree, rfl, by decide, fun hmem => ?_⟩
  obtain ⟨-, -, -, -, -, e, he, -, hsuffix⟩ := (mem_walk htree rfl rfl (by decide)).mp hmem
  obtain rfl := List.mem_singleton.mp he
  exact absurd hsuffix (by decide +kernel)

end SecretScan.Walker
