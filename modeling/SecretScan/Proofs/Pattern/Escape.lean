import SecretScan.Proofs.Pattern.Splitting
import SecretScan.Proofs.Pattern.Unescape

/-!
# One level of shell escapes

Taking off shell escapes undoes exactly one level of them (`escape_undone`): a text is found again
after a backslash is written before each of its backslashes and double quotes, a text changes exactly
if it has an escape, and it loses one backslash for each escape that the pass takes.
-/

namespace SecretScan.Pattern

/-! ## 1. Writing escapes -/

theorem escape_cons (c : Char) (cs : List Char) :
    escape (c :: cs) = (if c = '\\' ∨ c = '"' then ['\\', c] else [c]) ++ escape cs :=
  List.flatMap_cons

theorem unescape_escape (cs : List Char) : unescape (escape cs) = cs := by
  induction cs with
  | nil => rfl
  | cons c cs ih =>
    rw [escape_cons, unescape_eq_map_pieces]
    by_cases hc : c = '\\' ∨ c = '"'
    · rw [if_pos hc]
      -- the backslash that was put before the character is taken together with it
      show (pieces ('\\' :: c :: escape cs)).map Piece.char = c :: cs
      rw [pieces_escaped hc, List.map_cons, ← unescape_eq_map_pieces, ih]
      rfl
    · rw [if_neg hc]
      show (pieces (c :: escape cs)).map Piece.char = c :: cs
      -- no other character begins an escape
      have hplain : ¬(c = '\\' ∧ BeginsEscapable (escape cs)) := fun h => hc (.inl h.1)
      rw [pieces_plain hplain, List.map_cons, ← unescape_eq_map_pieces, ih]
      rfl

theorem eq_or_mem_of_mem_escape {c : Char} {cs : List Char} (h : c ∈ escape cs) :
    c = '\\' ∨ c ∈ cs := by
  obtain ⟨d, hd, hc⟩ := List.mem_flatMap.mp h
  by_cases hescaped : d = '\\' ∨ d = '"'
  · rw [if_pos hescaped, List.mem_cons, List.mem_singleton] at hc
    apply hc.imp_right
    intro heq
    rwa [heq]
  · rw [if_neg hescaped, List.mem_singleton] at hc
    right
    rwa [hc]

theorem getLast?_escape (cs : List Char) : (escape cs).getLast? = cs.getLast? := by
  induction cs using List.reverseRecOn with
  | nil => rfl
  | append_singleton cs c _ =>
    rw [escape, List.flatMap_append, List.flatMap_singleton, List.getLast?_concat]
    by_cases hc : c = '\\' ∨ c = '"'
    · rw [if_pos hc, List.getLast?_append_of_ne_nil _ (List.cons_ne_nil _ _)]
      rfl
    · rw [if_neg hc, List.getLast?_concat]

theorem isUsable_escape (cs : List Char) : isUsable (escape cs) = isUsable cs := by
  cases cs with
  | nil => rfl
  | cons c cs =>
    rw [escape_cons]
    by_cases hc : c = '\\' ∨ c = '"'
    · rw [if_pos hc]
      rcases hc with rfl | rfl <;> rfl
    · rw [if_neg hc]
      rfl

/-! ## 2. The escapes of a text -/

/-- Somewhere in a text a backslash stands before something that it escapes. -/
def HasEscape (cs : List Char) : Prop := ∃ c, IsEscapable c ∧ ['\\', c] <:+: cs

/-- The number of escapes that the pass takes. -/
def escapeCount (cs : List Char) : Nat := (pieces cs).countP Piece.isEscaped

theorem escapeCount_escaped {c : Char} (hc : IsEscapable c) (cs : List Char) :
    escapeCount ('\\' :: c :: cs) = escapeCount cs + 1 := by
  rw [escapeCount, pieces_escaped hc, List.countP_cons_of_pos rfl, ← escapeCount]

theorem escapeCount_plain {c : Char} {cs : List Char} (h : ¬(c = '\\' ∧ BeginsEscapable cs)) :
    escapeCount (c :: cs) = escapeCount cs := by
  rw [escapeCount, pieces_plain h, List.countP_cons_of_neg Bool.false_ne_true, ← escapeCount]

/-- Nothing is lost but a backslash for each escape. -/
theorem perm_unescape (cs : List Char) :
    cs.Perm (unescape cs ++ List.replicate (escapeCount cs) '\\') := by
  rw [unescape_eq_map_pieces]
  induction cs using passInduction with
  | nil => exact .refl _
  | escaped c cs hc ih =>
    rw [escapeCount_escaped hc, pieces_escaped hc, List.replicate_succ]
    apply (List.Perm.swap c '\\' cs).trans
    apply List.Perm.cons c
    exact (ih.cons '\\').trans List.perm_middle.symm
  | plain c cs h ih =>
    rw [escapeCount_plain h, pieces_plain h]
    exact ih.cons c

theorem length_unescape (cs : List Char) :
    (unescape cs).length + escapeCount cs = cs.length := by
  rw [(perm_unescape cs).length_eq, List.length_append, List.length_replicate]

theorem size_unescape (cs : List Char) :
    Utf8.size (unescape cs) + escapeCount cs = Utf8.size cs := by
  have hsum : ∀ ds, Utf8.size ds = (ds.map Char.utf8Size).sum := fun _ => rfl
  have hbackslash : Char.utf8Size '\\' = 1 := rfl
  rw [hsum, hsum, ((perm_unescape cs).map Char.utf8Size).sum_eq, List.map_append, List.sum_append,
    List.map_replicate, hbackslash, List.sum_replicate, smul_eq_mul, mul_one]

/-- The pass takes the first escape of a text that has one. -/
theorem hasEscape_iff (cs : List Char) : HasEscape cs ↔ 0 < escapeCount cs := by
  unfold HasEscape
  induction cs using passInduction with
  | nil => simp [escapeCount, pieces]
  | escaped c cs hc ih =>
    rw [escapeCount_escaped hc]
    exact iff_of_true ⟨c, hc, (List.prefix_append ['\\', c] cs).isInfix⟩ (Nat.succ_pos _)
  | plain c cs hplain ih =>
    rw [escapeCount_plain hplain, ← ih]
    constructor
    · intro h
      obtain ⟨d, hd, hinfix⟩ := h
      cases List.infix_cons_iff.mp hinfix with
      | inl hprefix =>
        -- the escape would begin with the first character
        obtain ⟨rest, hrest⟩ := hprefix
        obtain ⟨rfl, rfl⟩ := List.cons.inj hrest
        exact absurd ⟨rfl, d, rfl, hd⟩ hplain
      | inr hinfix => exact ⟨d, hd, hinfix⟩
    · intro h
      obtain ⟨d, hd, hinfix⟩ := h
      exact ⟨d, hd, List.infix_cons hinfix⟩

theorem unescape_eq_self_iff (cs : List Char) : unescape cs = cs ↔ ¬HasEscape cs := by
  have hlength := length_unescape cs
  rw [hasEscape_iff]
  constructor
  · intro heq
    rw [heq] at hlength
    omega
  · intro hcount
    apply (unescape_sublist cs).eq_of_length
    omega

/-! ## 3. Expressions in a file -/

/-- A text that can be a line with a pattern: it is no comment and not empty, it is one line, and the
end of the line takes no character of it. -/
structure IsPatternLine (line : List Char) : Prop where
  usable : isUsable line = true
  oneLine : '\n' ∉ line
  noReturn : line.getLast? ≠ some '\r'

theorem IsPatternLine.escape {line : List Char} (h : IsPatternLine line) :
    IsPatternLine (escape line) where
  usable := (isUsable_escape line).trans h.usable
  oneLine := fun hmem => (eq_or_mem_of_mem_escape hmem).elim (by decide) h.oneLine
  noReturn := by
    rw [getLast?_escape]
    exact h.noReturn

theorem textLines_intercalate {lines : List (List Char)} (hne : lines ≠ [])
    (h : ∀ line ∈ lines, IsPatternLine line) : textLines (['\n'].intercalate lines) = lines := by
  rw [textLines, Line.split_intercalate_of_notMem hne fun line hline => (h line hline).oneLine]
  have hkept : ∀ line ∈ lines, Line.dropFinal '\r' line = line :=
    fun line hline => if_neg (h line hline).noReturn
  rw [List.map_congr_left hkept, List.map_id']

/-- Expressions whose backslashes and double quotes are escaped are compiled from a file as they
are. -/
theorem ofSources_escape {files : Node} {source : Source} (stage : Stage)
    {lines : List (List Char)} (hne : lines ≠ []) (h : ∀ line ∈ lines, IsPatternLine line)
    (hsource : source.Holds files (['\n'].intercalate (lines.map escape))) :
    Matcher.ofSources files stage [source] = ((Regex.read (alternation lines)).map
      fun regex => ⟨stage, some regex, lines.length⟩).mapError (.invalid stage) := by
  have hescaped : ∀ line ∈ lines.map escape, IsPatternLine line := by
    intro line hline
    obtain ⟨line, hmem, rfl⟩ := List.mem_map.mp hline
    exact (h line hmem).escape
  -- once read, the lines are those that were escaped
  have hback : (lines.map escape).map unescape = lines := by
    rw [List.map_map]
    exact List.map_id'' unescape_escape lines
  have hne' : lines.map escape ≠ [] := fun hnil => hne (List.map_eq_nil_iff.mp hnil)
  rw [Matcher.ofSources_eq_ofLines (.cons hsource .nil), List.flatMap_singleton,
    textLines_intercalate hne' hescaped,
    Matcher.ofLines_usable hne' fun line hline => (hescaped line hline).usable, hback,
    List.length_map]

/-- One level of escapes is undone, for any text and for the expressions in a file.  A text stays as
it is exactly if it has no escape; otherwise it gets shorter by the number of escapes that the pass
takes, in characters and in bytes. -/
theorem escape_undone (cs : List Char) :
    unescape (escape cs) = cs ∧
    (∀ files source stage lines, lines ≠ [] → (∀ line ∈ lines, IsPatternLine line) →
      Source.Holds files source (['\n'].intercalate (lines.map escape)) →
        Matcher.ofSources files stage [source] = ((Regex.read (alternation lines)).map
          fun regex => ⟨stage, some regex, lines.length⟩).mapError (.invalid stage)) ∧
    (unescape cs = cs ↔ ¬HasEscape cs) ∧
    (HasEscape cs → (unescape cs).length < cs.length) ∧
    (unescape cs).length + escapeCount cs = cs.length ∧
    Utf8.size (unescape cs) + escapeCount cs = Utf8.size cs := by
  refine ⟨unescape_escape cs, ?_, unescape_eq_self_iff cs, fun hescape => ?_,
    length_unescape cs, size_unescape cs⟩
  · intro files source stage lines hne h hsource
    exact ofSources_escape stage hne h hsource
  · -- an escape is a pair of which one character is dropped
    have hcount := (hasEscape_iff cs).mp hescape
    have hlength := length_unescape cs
    omega

/-- The expression `"\d+"` is compiled from a text in which it is written with escapes. -/
theorem escape_undone_digits :
    let expression := "\"\\d+\"".toList
    let text := "\\\"\\\\d+\\\"".toList
    unescape text = expression ∧ HasEscape text ∧ (unescape text).length < text.length ∧
    ∃ m, Matcher.ofSources .emptyDir .strict [.data "text" (Utf8.encode text)] = .ok m ∧
      m.patternCount = 1 := by
  intro expression text
  have hline : IsPatternLine expression := ⟨rfl, by decide, by decide⟩
  have hlines : ∀ line ∈ [expression], IsPatternLine line := by simpa using hline
  have hescape : HasEscape text := ⟨'"', .inr rfl, List.prefix_append ['\\', '"'] _ |>.isInfix⟩
  obtain ⟨hback, hcompiled, -⟩ := escape_undone expression
  obtain ⟨-, -, -, hshorter, -⟩ := escape_undone text
  have hm : Matcher.ofSources .emptyDir .strict [.data "text" (Utf8.encode text)] = .ok _ :=
    hcompiled .emptyDir (.data "text" (Utf8.encode text)) .strict [expression]
      (List.cons_ne_nil _ _) hlines rfl
  exact ⟨hback, hescape, hshorter hescape, _, hm, rfl⟩

end SecretScan.Pattern
