import SecretScan.Proofs.Terminal.Strip
import SecretScan.Proofs.Text.Blank
import SecretScan.Proofs.Text.Line
import SecretScan.Report.Text

/-!
# The lines of a report without styles

A line for a match shows the path, the number and the line with the secret.  Styles are taken off
again when an output file is written, so the file is the same with colour and without
(`Report.plain_colour_independent`).  Control characters go with the styles
(`Report.terminated_plain_iff`).
-/

namespace SecretScan

/-! ## 1. The first occurrence of a part -/

/-- A text stays as it is or has an occurrence of the part replaced, whatever takes its place. -/
theorem replaceFirst_cases (part text : List Char) :
    (∀ new, replaceFirst part new text = text) ∨
      ∃ before after, text = before ++ part ++ after ∧
        ∀ new, replaceFirst part new text = before ++ new ++ after := by
  induction text with
  | nil =>
    by_cases hpart : part = []
    · subst hpart
      exact .inr ⟨[], [], rfl, fun new => by simp [replaceFirst]⟩
    · exact .inl fun new => if_neg hpart
  | cons c text ih =>
    by_cases hfirst : part.isPrefixOf (c :: text) = true
    · have hsplit : c :: text = part ++ (c :: text).drop part.length :=
        List.prefix_append_drop (List.isPrefixOf_iff_prefix.mp hfirst)
      refine .inr ⟨[], (c :: text).drop part.length, by simpa using hsplit, fun new => ?_⟩
      rw [replaceFirst, if_pos hfirst, List.nil_append]
    · -- the part does not stand here, so whether it occurs is settled further on
      have hnext : ∀ new, replaceFirst part new (c :: text) = c :: replaceFirst part new text :=
        fun new => if_neg hfirst
      rcases ih with hkeep | ⟨before, after, hsplit, hreplace⟩
      · exact .inl fun new => by rw [hnext, hkeep]
      · exact .inr ⟨c :: before, after, by rw [hsplit]; rfl, fun new => by
          rw [hnext, hreplace]
          rfl⟩

theorem replaceFirst_self (part text : List Char) : replaceFirst part part text = text := by
  rcases replaceFirst_cases part text with hkeep | ⟨before, after, hsplit, hreplace⟩
  · exact hkeep part
  · rw [hreplace, ← hsplit]

/-! ## 2. The line for a match -/

/-- The line for a match without styles. -/
def Match.shown (m : Match) : List Char :=
  m.file.text.toList ++ ':' :: Report.lineNumber m.line ++ ' ' :: m.lineText.toList

namespace Report

open Terminal (Style strip isShown)

theorem isDigit_of_mem_lineNumber {n : Nat} {c : Char} (h : c ∈ lineNumber n) :
    c.isDigit = true := by
  rcases List.mem_append.mp h with hzero | hdigit
  · rw [List.eq_of_mem_replicate hzero]
    rfl
  · exact Nat.isDigit_of_mem_toDigits (by decide) (by decide) hdigit

theorem escape_notMem_lineNumber (n : Nat) : '\x1b' ∉ ':' :: lineNumber n := by
  intro h
  rcases List.mem_cons.mp h with h | h
  · exact absurd h (by decide)
  · exact absurd (isDigit_of_mem_lineNumber h) (by decide)

section

variable {part text : List Char}

/-- Styles do not let blanks in at the ends of a line. -/
theorem isTrimmed_styled (h : Blank.IsTrimmed text) (colour : Bool) :
    Blank.IsTrimmed (replaceFirst part (Style.secret.apply colour part) text) := by
  cases colour with
  | false =>
    have hplain : Style.secret.apply false part = part := rfl
    rwa [hplain, replaceFirst_self]
  | true =>
    rcases replaceFirst_cases part text with hkeep | ⟨before, after, rfl, hreplace⟩
    · rwa [hkeep]
    · -- a style begins with the escape character and ends with a letter
      have hhead : (Style.secret.apply true part).head? = some '\x1b' := rfl
      have hlast : (Style.secret.apply true part).getLast? = some 'm' := by
        rw [Style.apply, if_pos rfl, List.getLast?_append]
        rfl
      rw [hreplace]
      exact h.replace hhead (by decide) hlast (by decide)

theorem strip_styled (h : '\x1b' ∉ text) (colour : Bool) :
    strip (replaceFirst part (Style.secret.apply colour part) text) = text.filter isShown := by
  rcases replaceFirst_cases part text with hkeep | ⟨before, after, rfl, hreplace⟩
  · rw [hkeep, Terminal.strip_eq_filter h]
  · simp only [List.mem_append, not_or] at h
    obtain ⟨⟨hbefore, hpart⟩, hafter⟩ := h
    rw [hreplace, List.append_assoc, Terminal.strip_append hbefore,
      Style.strip_apply_append (by decide) hpart, Terminal.strip_eq_filter hafter,
      List.filter_append, List.filter_append, List.append_assoc]

end

variable {m : Match} (htrim : Blank.trim m.lineText = m.lineText)
include htrim

theorem isTrimmed_lineText : Blank.IsTrimmed m.lineText.toList := by
  have htrim := congrArg String.toList htrim
  rwa [Blank.trim, String.toList_ofList] at htrim

theorem matchLine_eq (colour : Bool) : matchLine colour m =
    Style.accent.apply colour m.file.text.toList ++
      Style.muted.apply colour (':' :: lineNumber m.line) ++
      ' ' :: replaceFirst m.matched.toList (Style.secret.apply colour m.matched.toList)
        m.lineText.toList := by
  have hline : Blank.IsTrimmed (replaceFirst m.matched.toList
      (Style.secret.apply colour m.matched.toList) m.lineText.toList) :=
    isTrimmed_styled (isTrimmed_lineText htrim) colour
  rw [matchLine, hline]

theorem matchLine_false : matchLine false m = m.shown := by
  have hplain : ∀ (s : Style) text, s.apply false text = text := fun _ _ => rfl
  rw [matchLine_eq htrim, hplain, hplain, hplain, replaceFirst_self]
  rfl

/-- With and without colour, the same is left of the line for a match. -/
theorem strip_matchLine (hfile : '\x1b' ∉ m.file.text.toList) (hline : '\x1b' ∉ m.lineText.toList)
    (colour : Bool) : strip (matchLine colour m) = m.shown.filter isShown := by
  have hblank : ∀ rest, strip (' ' :: rest) = [' '].filter isShown ++ strip rest :=
    Terminal.strip_append (show '\x1b' ∉ [' '] by decide)
  rw [matchLine_eq htrim, List.append_assoc, Style.strip_apply_append (by decide) hfile,
    Style.strip_apply_append (by decide) (escape_notMem_lineNumber m.line), hblank,
    strip_styled hline, ← List.filter_append, ← List.filter_append, ← List.filter_append,
    List.singleton_append, Match.shown, List.append_assoc]

end Report

/-! ## 3. The output file -/

namespace Report

open Terminal (isShown)

/-- The lines of an output file, with colour or without, are those for the matches without styles
and without hidden characters, if nothing that is shown of the matches has an escape character in
it and the lines are trimmed. -/
theorem plain_colour_independent {r : ScanResult}
    (htrim : ∀ m ∈ r.matches_, Blank.trim m.lineText = m.lineText)
    (hescape : ∀ m ∈ r.matches_, '\x1b' ∉ m.file.text.toList ∧ '\x1b' ∉ m.lineText.toList) :
    Utf8.encode (plain (matchLines true r)) = Utf8.encode (plain (matchLines false r)) ∧
    ∀ colour, plain (matchLines colour r) =
      joinLines (r.sortedMatches.map fun m => m.shown.filter isShown) := by
  have hplain : ∀ colour, plain (matchLines colour r) =
      joinLines (r.sortedMatches.map fun m => m.shown.filter isShown) := by
    intro colour
    rw [plain, matchLines, List.map_map]
    refine congrArg joinLines (List.map_congr_left fun m hm => ?_)
    have hmem : m ∈ r.matches_ := List.mem_mergeSort.mp hm
    exact strip_matchLine (htrim m hmem) (hescape m hmem).1 (hescape m hmem).2 colour
  exact ⟨by rw [hplain true, hplain false], hplain⟩

/-- Matches with secrets at the start and at the end of a line, of which the first one looks like a
part of an escape sequence, and one with a secret that does not occur in its line. -/
def markedResult : ScanResult where
  matches_ := [⟨⟨"a.py"⟩, 7, "31m = key[31m", "31m"⟩, ⟨⟨"b.py"⟩, 1, "to\tken", "n"⟩,
    ⟨⟨"b.py"⟩, 12345, "token", "key"⟩]

/-- Nothing is lost of a secret that looks like an escape sequence, but a tabulator is. -/
theorem plain_colour_independent_marked :
    (∀ m ∈ markedResult.matches_, Blank.trim m.lineText = m.lineText) ∧
    (∀ m ∈ markedResult.matches_, '\x1b' ∉ m.file.text.toList ∧ '\x1b' ∉ m.lineText.toList) ∧
    Utf8.encode (plain (matchLines true markedResult)) =
      Utf8.encode (plain (matchLines false markedResult)) ∧
    plain (matchLines true markedResult) =
      "a.py:0007 31m = key[31m\nb.py:0001 token\nb.py:12345 token\n".toList := by
  have htrim : ∀ m ∈ markedResult.matches_, Blank.trim m.lineText = m.lineText := by decide
  have hescape : ∀ m ∈ markedResult.matches_,
      '\x1b' ∉ m.file.text.toList ∧ '\x1b' ∉ m.lineText.toList := by decide
  have hsorted : markedResult.sortedMatches = markedResult.matches_ :=
    List.mergeSort_of_pairwise (by decide)
  obtain ⟨hsame, hplain⟩ := plain_colour_independent htrim hescape
  refine ⟨htrim, hescape, hsame, ?_⟩
  rw [hplain true, hsorted]
  decide +kernel

end Report

/-! ## 4. Control characters in lines -/

open Terminal (isControl isShown strip)

/-- The texts from outside that are shown of a match. -/
def Match.texts (m : Match) : List Char := m.file.text.toList ++ m.lineText.toList

theorem Match.mem_shown {m : Match} {c : Char} :
    c ∈ m.shown ↔ c ∈ m.texts ∨ c ∈ [':', ' '] ∨ c ∈ Report.lineNumber m.line := by
  simp only [shown, texts, List.mem_append, List.mem_cons, List.not_mem_nil, or_false]
  tauto

/-- Control characters come in from outside only. -/
theorem Match.forall_mem_shown {m : Match} {p : Char → Prop}
    (h : ∀ c, isControl c = false → p c) : (∀ c ∈ m.shown, p c) ↔ ∀ c ∈ m.texts, p c := by
  refine ⟨fun hall c hc => hall c (mem_shown.mpr (.inl hc)), fun hall c hc => ?_⟩
  rcases mem_shown.mp hc with htext | hmark | hdigit
  · exact hall c htext
  · refine h c ?_
    rcases List.mem_pair.mp hmark with rfl | rfl <;> decide
  · exact h c (Terminal.isControl_of_isDigit (Report.isDigit_of_mem_lineNumber hdigit))

namespace Report

/-- The lines that are written are those that are given exactly if no control character is in
them. -/
theorem terminated_plain_iff {lines : List (List Char)} :
    Line.terminated '\n' (plain lines) = lines ↔
      ∀ line ∈ lines, ∀ c ∈ line, isControl c = false := by
  constructor
  · intro h line hline c hc
    rw [← h] at hline
    obtain ⟨hmem, hne⟩ := Line.of_mem_terminated hline hc
    -- whatever is written has been left over by `strip`, or is the end of a line
    obtain ⟨written, hwritten, hc⟩ := List.mem_flatMap.mp hmem
    obtain ⟨source, -, rfl⟩ := List.mem_map.mp hwritten
    rcases List.mem_append.mp hc with hleft | hend
    · exact Terminal.isControl_eq_false_iff.mpr ⟨hne, Terminal.isShown_of_mem_stripFrom hleft⟩
    · exact absurd (List.mem_singleton.mp hend) hne
  · intro h
    have hlines : lines.map strip = lines :=
      (List.map_congr_left fun line hline => Terminal.strip_eq_self_iff.mpr fun c hc =>
        (Terminal.isControl_eq_false_iff.mp (h line hline c hc)).2).trans (List.map_id lines)
    rw [plain, hlines]
    exact Line.terminated_flatMap_concat fun line hline hfeed =>
      absurd (h line hline _ hfeed) (by decide)

/-- The lines for the matches follow the heading of a report. -/
theorem exists_text_eq (colour : Bool) (r : ScanResult) (lines : List (List Char))
    (time : ScanTime) : ∃ after, text colour r lines time =
      ['\n'] ++ ("Results:\n".toList ++ joinLines lines) ++ after := by
  have happend : ∀ lines others, joinLines (lines ++ others) = joinLines lines ++ joinLines others :=
    fun _ _ => List.flatMap_append
  have hheading : joinLines [[], "Results:".toList] = ['\n'] ++ "Results:\n".toList := by decide
  refine ⟨joinLines ((if tableSize < r.filesScanned then table colour r else []) ++
    [[], summary r time]), ?_⟩
  rw [text, List.append_assoc, happend, happend, hheading, List.append_assoc ['\n']]

theorem matchLines_false {r : ScanResult}
    (htrim : ∀ m ∈ r.matches_, Blank.trim m.lineText = m.lineText) :
    matchLines false r = r.sortedMatches.map Match.shown :=
  List.map_congr_left fun m hm => matchLine_false (htrim m (List.mem_mergeSort.mp hm))

end Report

end SecretScan
