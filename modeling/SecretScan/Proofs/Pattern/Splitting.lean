import SecretScan.Pattern.Source
import SecretScan.Proofs.Pattern.Lines
import SecretScan.Proofs.Text.Line
import SecretScan.Proofs.Text.Utf8

/-!
# Patterns in one source or in several

A stage is compiled from the lines of all its sources.  It makes no difference how these lines are
spread over sources, nor how the lines of a source end, nor whether there are comments and empty lines
between them (`Matcher.ofSources_spread`).
-/

namespace SecretScan

namespace Pattern

/-! ## 1. The lines of a text -/

/-- The lines of a text.  A carriage return at the end of a line does not belong to it. -/
def textLines (text : List Char) : List (List Char) :=
  (Line.split '\n' text).map (Line.dropFinal '\r')

/-- A source can be read, and holds a text. -/
def Source.Holds (files : Node) (s : Source) (text : List Char) : Prop :=
  s.content files = .ok (Utf8.encode text)

theorem Source.Holds.lines_eq {files : Node} {s : Source} {text : List Char}
    (h : s.Holds files text) : s.lines files = .ok (textLines text) := by
  have hdecode : Utf8.decode (Utf8.encode text) = .ok text := Utf8.decode_eq_ok_iff.mpr rfl
  unfold Source.lines
  rw [h]
  show (Utf8.decode (Utf8.encode text)).mapError _ >>= _ = _
  rw [hdecode]
  rfl

/-- Texts that are joined by line feeds have the lines of all of them.  Without a text, there is one
empty line. -/
theorem filter_textLines_intercalate (texts : List (List Char)) :
    (textLines (['\n'].intercalate texts)).filter isUsable =
      (texts.flatMap textLines).filter isUsable := by
  by_cases hne : texts = []
  · subst hne
    rfl
  · rw [textLines, Line.split_intercalate hne, List.map_flatMap]
    rfl

/-! ## 2. Ends of lines -/

/-- The text with a carriage return before each line feed. -/
def withReturns (text : List Char) : List Char :=
  text.flatMap fun c => if c = '\n' then ['\r', '\n'] else [c]

/-- No carriage return stands before a line feed or at the end of a text. -/
def NoReturns (text : List Char) : Prop :=
  ∀ before after, text = before ++ '\r' :: after → ∃ c rest, after = c :: rest ∧ c ≠ '\n'

theorem NoReturns.of_append_right {xs ys : List Char} (h : NoReturns (xs ++ ys)) : NoReturns ys :=
  fun before after heq => h (xs ++ before) after (by rw [heq, List.append_assoc])

theorem NoReturns.append {xs ys : List Char} (hxs : NoReturns xs) (hys : NoReturns ys) :
    NoReturns (xs ++ ys) := by
  intro before after heq
  rcases List.append_eq_append_iff.mp heq with ⟨more, rfl, hmore⟩ | ⟨more, rfl, hmore⟩
  · exact hys more after hmore
  · cases more with
    | nil => exact hys [] after hmore.symm
    | cons c more =>
      -- what follows the return in the first text follows it in both
      obtain ⟨rfl, rfl⟩ := List.cons.inj hmore
      obtain ⟨d, rest, rfl, hd⟩ := hxs before more rfl
      exact ⟨d, rest ++ ys, rfl, hd⟩

theorem noReturns_of_notMem {text : List Char} (h : '\r' ∉ text) : NoReturns text :=
  fun before after heq => absurd (by simp [heq]) h

theorem NoReturns.intercalate {texts : List (List Char)} (h : ∀ text ∈ texts, NoReturns text) :
    NoReturns (['\n'].intercalate texts) := by
  have hfeed : NoReturns ['\n'] := noReturns_of_notMem (by decide)
  induction texts with
  | nil => exact noReturns_of_notMem List.not_mem_nil
  | cons text texts ih =>
    obtain ⟨htext, htexts⟩ := List.forall_mem_cons.mp h
    cases texts with
    | nil => rwa [List.intercalate_singleton]
    | cons next texts =>
      rw [List.intercalate_cons_cons]
      exact (htext.append hfeed).append (ih htexts)

theorem withReturns_of_notMem {line : List Char} (h : '\n' ∉ line) : withReturns line = line := by
  have hsingle : withReturns line = line.flatMap fun c => [c] := by
    apply List.flatMap_congr
    intro c hc
    have hne : c ≠ '\n' := by
      rintro rfl
      exact h hc
    exact if_neg hne
  rw [hsingle]
  exact List.flatMap_singleton' line

theorem textLines_append_cons {line : List Char} (h : '\n' ∉ line) (rest : List Char) :
    textLines (line ++ '\n' :: rest) = Line.dropFinal '\r' line :: textLines rest := by
  rw [textLines, Line.split_append_cons h, List.map_cons, ← textLines]

/-- By induction on the number of lines: a return that is added to the end of a line is the one that
does not belong to it. -/
theorem textLines_withReturns {text : List Char} (h : NoReturns text) :
    textLines (withReturns text) = textLines text := by
  induction hn : text.length using Nat.strong_induction_on generalizing text with
  | _ n ih =>
    by_cases hfeed : '\n' ∈ text
    · obtain ⟨line, rest, rfl, hline⟩ := List.eq_append_cons_of_mem hfeed
      have hreturns : withReturns (line ++ '\n' :: rest) =
          (line ++ ['\r']) ++ '\n' :: withReturns rest := by
        rw [withReturns, List.flatMap_append, ← withReturns, withReturns_of_notMem hline,
          List.flatMap_cons, if_pos rfl, ← withReturns, List.append_assoc]
        rfl
      have hfree : '\n' ∉ line ++ ['\r'] := by
        rw [List.mem_append, List.mem_singleton]
        exact not_or.mpr ⟨hline, by decide⟩
      -- no line of the text ends with a return of its own
      have hends : line.getLast? ≠ some '\r' := by
        intro hlast
        obtain ⟨front, rfl⟩ := List.getLast?_eq_some_iff.mp hlast
        obtain ⟨c, after, heq, hc⟩ := h front ('\n' :: rest) (List.append_assoc ..)
        exact hc (List.cons.inj heq).1.symm
      have hrest : NoReturns rest := by
        rw [List.append_cons] at h
        exact h.of_append_right
      -- what is left after the first line feed is shorter
      have hshorter : rest.length < n := by
        rw [← hn, List.length_append, List.length_cons]
        omega
      rw [hreturns, textLines_append_cons hfree, textLines_append_cons hline,
        ih rest.length hshorter hrest rfl, Line.dropFinal_concat, if_pos rfl, Line.dropFinal,
        if_neg hends]
    · rw [withReturns_of_notMem hfeed]

/-- A text is written in another way, with the same patterns in its lines. -/
inductive Respelled : List Char → List Char → Prop
  /-- All lines end in the other way. -/
  | returns {text : List Char} (h : NoReturns text) : Respelled text (withReturns text)
  /-- Comments and empty lines are put between the lines. -/
  | padded {text text' : List Char} (h : Padded (textLines text) (textLines text')) :
    Respelled text text'
  | trans {text text' text'' : List Char} (h : Respelled text text')
    (h' : Respelled text' text'') : Respelled text text''

theorem Respelled.filter_textLines {text text' : List Char} (h : Respelled text text') :
    (textLines text').filter isUsable = (textLines text).filter isUsable := by
  induction h with
  | returns h => rw [textLines_withReturns h]
  | padded h => exact h.filter_isUsable
  | trans _ _ ih ih' => exact ih'.trans ih

theorem filter_flatMap_textLines {texts texts' : List (List Char)}
    (h : List.Forall₂ Respelled texts texts') :
    (texts'.flatMap textLines).filter isUsable = (texts.flatMap textLines).filter isUsable := by
  induction h with
  | nil => rfl
  | cons hfirst _ ih =>
    rw [List.flatMap_cons, List.flatMap_cons, List.filter_append, List.filter_append, ih,
      hfirst.filter_textLines]

end Pattern

/-! ## 3. Compiling a stage -/

namespace Matcher

variable {files files' : Node} {stage : Stage} {sources sources' : List Pattern.Source}
  {texts texts' : List (List Char)}

theorem ofSources_eq_ofLines (h : List.Forall₂ (Pattern.Source.Holds files) sources texts) :
    ofSources files stage sources =
      (ofLines stage (texts.flatMap Pattern.textLines)).mapError (.invalid stage) := by
  have hlines : sources.mapM (Pattern.Source.lines files) = .ok (texts.map Pattern.textLines) := by
    induction h with
    | nil => rfl
    | cons hfirst _ ih =>
      rw [List.mapM_cons, hfirst.lines_eq, ih]
      rfl
  unfold ofSources
  rw [hlines]
  rfl

theorem ofLines_congr {lines lines' : List (List Char)}
    (h : lines'.filter Pattern.isUsable = lines.filter Pattern.isUsable) :
    ofLines stage lines' = ofLines stage lines := by
  rw [← ofLines_filter, h, ofLines_filter]

theorem ofSources_congr_lines (h : List.Forall₂ (Pattern.Source.Holds files) sources texts)
    (h' : List.Forall₂ (Pattern.Source.Holds files') sources' texts')
    (hlines : (texts'.flatMap Pattern.textLines).filter Pattern.isUsable =
      (texts.flatMap Pattern.textLines).filter Pattern.isUsable) :
    ofSources files' stage sources' = ofSources files stage sources := by
  rw [ofSources_eq_ofLines h, ofSources_eq_ofLines h', ofLines_congr hlines]

/-- From sources that hold texts, a stage is compiled like from the lines of these texts in one list,
and like from one source that holds the texts joined by line feeds: either all are refused because of
their patterns, or all give the same matcher.  The lines, the joined text and the single texts may
also be written in another way. -/
theorem ofSources_spread (stage : Stage)
    (h : List.Forall₂ (Pattern.Source.Holds files) sources texts) :
    (∀ lines, Pattern.Padded (texts.flatMap Pattern.textLines) lines →
      ofSources files stage sources = (ofLines stage lines).mapError (.invalid stage)) ∧
    (∀ files' s text, Pattern.Respelled (['\n'].intercalate texts) text →
      Pattern.Source.Holds files' s text →
        ofSources files' stage [s] = ofSources files stage sources) ∧
    (∀ files' sources' texts', List.Forall₂ Pattern.Respelled texts texts' →
      List.Forall₂ (Pattern.Source.Holds files') sources' texts' →
        ofSources files' stage sources' = ofSources files stage sources) ∧
    ((∀ text ∈ texts, Pattern.NoReturns text) → Pattern.Respelled (['\n'].intercalate texts)
      (Pattern.withReturns (['\n'].intercalate texts))) := by
  refine ⟨fun lines hlines => ?_, fun files' s text htext hs => ?_,
    fun files' sources' texts' htexts hsources => ?_, fun hreturns => ?_⟩
  · rw [ofLines_padded stage hlines]
    exact ofSources_eq_ofLines h
  · -- the joined text has the same lines that count
    have hsingle : List.Forall₂ (Pattern.Source.Holds files') [s] [text] := .cons hs .nil
    apply ofSources_congr_lines h hsingle
    rw [List.flatMap_singleton, htext.filter_textLines, Pattern.filter_textLines_intercalate]
  · exact ofSources_congr_lines h hsources (Pattern.filter_flatMap_textLines htexts)
  · exact .returns (.intercalate hreturns)

/-- The first of two texts has no line feed at its end, but a carriage return.  Joined, the texts still
have two patterns, also with other ends of lines in the second one. -/
theorem ofSources_spread_two :
    let first : Pattern.Source := .data "first" (Utf8.encode "a+\r".toList)
    let second : Pattern.Source := .data "second" (Utf8.encode "# bs\nb+".toList)
    let joined : Pattern.Source := .data "joined" (Utf8.encode "a+\r\n# bs\nb+".toList)
    let other : Pattern.Source := .data "other" (Utf8.encode "# bs\r\nb+".toList)
    ∃ m, ofSources .emptyDir .fast [first, second] = .ok m ∧ m.patternCount = 2 ∧
      ofSources .emptyDir .fast [joined] = .ok m ∧
      ofSources .emptyDir .fast [first, other] = .ok m := by
  intro first second joined other
  -- the first text ends with a carriage return and without a line feed
  have h : List.Forall₂ (Pattern.Source.Holds .emptyDir) [first, second]
      ["a+\r".toList, "# bs\nb+".toList] := .cons rfl (.cons rfl .nil)
  have hother : List.Forall₂ (Pattern.Source.Holds .emptyDir) [first, other]
      ["a+\r".toList, Pattern.withReturns "# bs\nb+".toList] := .cons rfl (.cons rfl .nil)
  obtain ⟨hlines, hjoined, hspelled, -⟩ := ofSources_spread .fast h
  have hm : ofSources .emptyDir .fast [first, second] = .ok _ := hlines _ (.refl _)
  have hreturns : Pattern.NoReturns "# bs\nb+".toList := Pattern.noReturns_of_notMem (by decide)
  refine ⟨_, hm, rfl, ?_, ?_⟩
  · exact (hjoined .emptyDir joined _ (.padded (.refl _)) rfl).trans hm
  · exact (hspelled .emptyDir _ _
      (.cons (.padded (.refl _)) (.cons (.returns hreturns) .nil)) hother).trans hm

end Matcher

end SecretScan
