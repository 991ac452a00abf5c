import SecretScan.Proofs.Text.Line
import SecretScan.Proofs.Text.Utf8
import SecretScan.Scan.Matchers

/-!
# The built-in stages

The built-in sources are ASCII texts, so they are read back as the lines that they were made of, and
the built-in stages are compiled from these lines (`Matchers.builtIn_eq`).
-/

namespace SecretScan

namespace Pattern

/-! ## 1. Reading a built-in source -/

/-- Whether a line is an ASCII text without the characters that end lines. -/
def isPlain (line : List Char) : Bool :=
  line.all fun c => c.toNat < 0x80 && c != '\n' && c != '\r'

theorem of_isPlain {line : List Char} (h : isPlain line = true) :
    '\n' ∉ line ∧ '\r' ∉ line := by
  simp only [isPlain, List.all_eq_true, Bool.and_eq_true, decide_eq_true_eq, bne_iff_ne] at h
  exact ⟨fun hc => (h _ hc).1.2 rfl, fun hc => (h _ hc).2 rfl⟩

variable {lines : List String} {texts : List (List Char)}

/-- The characters of lines that are given as literals can be read off one line at a time. -/
theorem map_toList_cons {cs : List Char} (h : lines.map String.toList = texts) :
    (String.ofList cs :: lines).map String.toList = cs :: texts := by
  rw [List.map_cons, h, String.toList_ofList]

theorem lines_source (name : String) (files : Node) (htexts : lines.map String.toList = texts)
    (hplain : ∀ text ∈ texts, isPlain text = true) :
    (BuiltIn.source name lines).lines files = .ok (texts ++ [[]]) := by
  have htext : (lines.flatMap fun line => line.toList ++ ['\n']) = texts.flatMap (· ++ ['\n']) := by
    rw [← htexts, List.flatMap_map]
  have hdecode : Utf8.decode (Utf8.encode (texts.flatMap (· ++ ['\n']))) = .ok _ :=
    Utf8.decode_eq_ok_iff.mpr rfl
  -- a line feed ends each line, so the last piece is empty, and no line ends with a return
  have hsplit := Line.split_flatMap_concat fun text hmem => (of_isPlain (hplain text hmem)).1
  have hends : (texts ++ [[]]).map (Line.dropFinal '\r') = texts ++ [[]] := by
    refine (List.map_congr_left fun text hmem => Line.dropFinal_of_notMem ?_).trans
      (List.map_id' _)
    rcases List.mem_append.mp hmem with hmem | hmem
    · exact (of_isPlain (hplain text hmem)).2
    · rw [List.mem_singleton.mp hmem]
      exact List.not_mem_nil
  unfold BuiltIn.source Source.lines
  rw [htext]
  show (Utf8.decode _).mapError _ >>= _ = _
  rw [hdecode]
  show Except.ok ((Line.split '\n' (texts.flatMap (· ++ ['\n']))).map _) = _
  rw [hsplit, hends]

end Pattern

/-! ## 2. Compiling the built-in stages -/

/-- The empty lines at the ends of sources are no patterns. -/
theorem Pattern.filter_isUsable_flatten (texts : List (List (List Char))) :
    (texts.map (· ++ [[]])).flatten.filter isUsable = texts.flatten.filter isUsable := by
  induction texts with
  | nil => rfl
  | cons text texts ih =>
    rw [List.map_cons, List.flatten_cons, List.flatten_cons, List.filter_append, List.filter_append,
      List.filter_append, ih]
    exact congrArg (· ++ _) (List.append_nil _)

theorem Matcher.ofSources_eq {files : Node} {stage : Stage} {sources : List Pattern.Source}
    (texts : List (List (List Char)))
    (h : sources.mapM (Pattern.Source.lines files) = .ok (texts.map (· ++ [[]]))) :
    ofSources files stage sources = (ofLines stage texts.flatten).mapError (.invalid stage) := by
  unfold ofSources
  rw [h]
  show (ofLines stage (texts.map (· ++ [[]])).flatten).mapError _ = _
  unfold ofLines
  rw [Pattern.filter_isUsable_flatten]

/-- The built-in stages are compiled from the characters of the built-in lines. -/
theorem Matchers.builtIn_eq {direct fast strict exclude : List (List Char)}
    (hdirect : Pattern.BuiltIn.directLines.map String.toList = direct)
    (hfast : Pattern.BuiltIn.fastLines.map String.toList = fast)
    (hstrict : Pattern.BuiltIn.strictLines.map String.toList = strict)
    (hexclude : Pattern.BuiltIn.excludeLines.map String.toList = exclude)
    (hplain : ∀ line ∈ direct ++ fast ++ strict ++ exclude, Pattern.isPlain line = true) :
    builtIn = ofLines (direct ++ fast) (direct ++ strict) exclude := by
  simp only [List.forall_mem_append] at hplain
  obtain ⟨⟨⟨hpdirect, hpfast⟩, hpstrict⟩, hpexclude⟩ := hplain
  have hdirect' := Pattern.lines_source "direct_matches.regex" .emptyDir hdirect hpdirect
  have hfast' := Pattern.lines_source "fast_patterns.regex" .emptyDir hfast hpfast
  have hstrict' := Pattern.lines_source "strict_patterns.regex" .emptyDir hstrict hpstrict
  have hexclude' := Pattern.lines_source "exclude_patterns.regex" .emptyDir hexclude hpexclude
  -- each source is a file of its own, with an empty line at its end
  have hexcludes : Pattern.Sources.builtIn.exclude.mapM (Pattern.Source.lines .emptyDir) =
      .ok ([exclude].map (· ++ [[]])) := by
    show List.mapM _ [Pattern.BuiltIn.source _ _] = _
    rw [List.mapM_cons, hexclude']
    rfl
  have hfasts : Pattern.Sources.builtIn.fast.mapM (Pattern.Source.lines .emptyDir) =
      .ok ([direct, fast].map (· ++ [[]])) := by
    show List.mapM _ [Pattern.BuiltIn.source _ _, Pattern.BuiltIn.source _ _] = _
    rw [List.mapM_cons, hdirect', List.mapM_cons, hfast']
    rfl
  have hstricts : Pattern.Sources.builtIn.strict.mapM (Pattern.Source.lines .emptyDir) =
      .ok ([direct, strict].map (· ++ [[]])) := by
    show List.mapM _ [Pattern.BuiltIn.source _ _, Pattern.BuiltIn.source _ _] = _
    rw [List.mapM_cons, hdirect', List.mapM_cons, hstrict']
    rfl
  unfold builtIn compile ofLines
  rw [Matcher.ofSources_eq _ hexcludes, Matcher.ofSources_eq _ hfasts,
    Matcher.ofSources_eq _ hstricts]
  simp only [List.flatten_cons, List.flatten_nil, List.append_nil]

theorem Matcher.ofSources_congr {files files' : Node} {stage : Stage} {sources : List Pattern.Source}
    (h : ∀ s ∈ sources, s.lines files = s.lines files') :
    ofSources files stage sources = ofSources files' stage sources := by
  have hlines : sources.mapM (·.lines files) = sources.mapM (·.lines files') := by
    induction sources with
    | nil => rfl
    | cons s sources ih =>
      obtain ⟨hs, hsources⟩ := List.forall_mem_cons.mp h
      rw [List.mapM_cons, List.mapM_cons, hs, ih hsources]
  rw [ofSources, ofSources, hlines]

/-- The built-in stages are the same in any directory. -/
theorem Matchers.compile_builtIn (files : Node) : compile files .builtIn = builtIn := by
  have hdata : ∀ s ∈ Pattern.Sources.builtIn.exclude ++
      (Pattern.Sources.builtIn.fast ++ Pattern.Sources.builtIn.strict),
      s.lines files = s.lines .emptyDir := by
    repeat refine List.forall_mem_cons.mpr ⟨rfl, ?_⟩
    exact List.forall_mem_nil _
  obtain ⟨hexclude, hrest⟩ := List.forall_mem_append.mp hdata
  obtain ⟨hfast, hstrict⟩ := List.forall_mem_append.mp hrest
  rw [builtIn, compile, compile, Matcher.ofSources_congr hexclude, Matcher.ofSources_congr hfast,
    Matcher.ofSources_congr hstrict]

/-- A check on the result of a computation that may fail shows that it does not. -/
theorem exists_ok_of_any {ε α : Type} {x : Except ε α} {p : α → Bool}
    (h : x.toOption.any p = true) : ∃ a, x = .ok a ∧ p a = true := by
  cases x with
  | error e => cases h
  | ok a => exact ⟨a, rfl, h⟩

/-- What a check on the stages that are compiled from these characters finds holds of the built-in
stages. -/
theorem Matchers.exists_builtIn_of_any {direct fast strict exclude : List (List Char)}
    (hdirect : Pattern.BuiltIn.directLines.map String.toList = direct)
    (hfast : Pattern.BuiltIn.fastLines.map String.toList = fast)
    (hstrict : Pattern.BuiltIn.strictLines.map String.toList = strict)
    (hexclude : Pattern.BuiltIn.excludeLines.map String.toList = exclude)
    (hplain : ∀ line ∈ direct ++ fast ++ strict ++ exclude, Pattern.isPlain line = true)
    {check : Matchers → Bool}
    (hcheck : (ofLines (direct ++ fast) (direct ++ strict) exclude).toOption.any check = true) :
    ∃ m, builtIn = .ok m ∧ check m = true := by
  rw [builtIn_eq hdirect hfast hstrict hexclude hplain]
  exact exists_ok_of_any hcheck

end SecretScan
