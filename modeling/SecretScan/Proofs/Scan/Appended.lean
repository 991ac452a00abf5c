import SecretScan.Proofs.Pattern.Appended
import SecretScan.Proofs.Regex.Extent
import SecretScan.Proofs.Scan.Screen

/-!
# A further strict pattern

The strict stage takes one match of a line only, and drops it if it is empty.  A pattern that is
appended to the stage can thus hide a secret, but only by an empty match that begins before the
secret (`Matchers.reported_after_append`).
-/

namespace SecretScan

/-! ## 1. Empty matches -/

namespace Regex

/-- The first match of `added` is empty and begins before that of `r`. -/
def Hides (added r : Regex) (text : List Char) : Prop :=
  ∃ i span, search added text = some (i, 0) ∧ search r text = some span ∧ i < span.1

variable {r added : Regex} {text : List Char}

theorem exists_find_ne_nil_iff :
    (∃ found, r.find text = some found ∧ found ≠ []) ↔
      ∃ span, search r text = some span ∧ 0 < span.2 := by
  constructor
  · rintro ⟨found, hfind, hne⟩
    obtain ⟨⟨i, n⟩, hsearch, rfl⟩ := Option.map_eq_some_iff.mp hfind
    refine ⟨(i, n), hsearch, ?_⟩
    have hpos := List.length_pos_iff.mpr hne
    rwa [length_of_search hsearch] at hpos
  · rintro ⟨⟨i, n⟩, hsearch, hpos⟩
    refine ⟨_, Option.map_eq_some_iff.mpr ⟨(i, n), hsearch, rfl⟩, ?_⟩
    apply List.length_pos_iff.mp
    rwa [length_of_search hsearch]

/-- Of a choice between an expression with a match and another one, the match is empty only if the
other one hides the first. -/
theorem exists_search_pair_iff {span : Nat × Nat} (h : search r text = some span)
    (hpos : 0 < span.2) :
    (∃ span', search (Expr.choice [r, added]) text = some span' ∧ 0 < span'.2) ↔
      ¬ Hides added r text := by
  rw [search_choice_pair h]
  simp only [Option.some.injEq, exists_eq_left', Hides, h]
  cases hadded : search added text with
  | none => simp [hpos]
  | some other =>
    obtain ⟨i, n⟩ := other
    by_cases hlt : i < span.1
    · -- the match of the other expression is taken
      simp only [hlt, if_true, Option.some.injEq, Prod.mk.injEq]
      constructor
      · rintro hn ⟨-, -, ⟨-, rfl⟩, -⟩
        exact absurd hn (Nat.lt_irrefl 0)
      · intro hhides
        apply Nat.pos_of_ne_zero
        rintro rfl
        exact hhides ⟨i, span, ⟨rfl, rfl⟩, rfl, hlt⟩
    · simp only [hlt, if_false, Option.some.injEq, Prod.mk.injEq]
      constructor
      · rintro - ⟨j, first, ⟨rfl, -⟩, rfl, hbefore⟩
        exact hlt hbefore
      · exact fun _ => hpos

end Regex

/-! ## 2. A longer stage -/

namespace Pattern

/-- The patterns of some lines, without their shell escapes. -/
def texts (lines : List (List Char)) : List (List Char) :=
  (lines.filter isUsable).map unescape

theorem texts_singleton {pattern : List Char} (husable : isUsable pattern = true) :
    texts [pattern] = [unescape pattern] := by
  rw [texts, List.filter_cons_of_pos husable]
  rfl

theorem texts_concat (lines : List (List Char)) {pattern : List Char}
    (husable : isUsable pattern = true) :
    texts (lines ++ [pattern]) = texts lines ++ [unescape pattern] := by
  rw [← texts_singleton husable]
  simp [texts]

end Pattern

namespace Matcher

variable {stage : Stage} {lines : List (List Char)} {m : Matcher}

/-- A stage with a pattern has the expression of its patterns. -/
theorem exists_read_of_ofLines (hne : Pattern.texts lines ≠ []) (hm : ofLines stage lines = .ok m) :
    ∃ r, m.regex = some r ∧ Regex.read (Pattern.alternation (Pattern.texts lines)) = .ok r := by
  have hfilter : lines.filter Pattern.isUsable ≠ [] := by simpa [Pattern.texts] using hne
  rw [← ofLines_filter, ofLines_usable hfilter fun line hline => (List.mem_filter.mp hline).2] at hm
  change (Regex.read (Pattern.alternation (Pattern.texts lines))).map _ = _ at hm
  cases hread : Regex.read (Pattern.alternation (Pattern.texts lines)) with
  | error e =>
    rw [hread] at hm
    cases hm
  | ok r =>
    rw [hread] at hm
    cases hm
    exact ⟨r, rfl, rfl⟩

/-- A stage without patterns has no expression. -/
theorem texts_ne_nil {r : Regex} (hm : ofLines stage lines = .ok m) (hr : m.regex = some r) :
    Pattern.texts lines ≠ [] := by
  intro hnil
  have hfilter : lines.filter Pattern.isUsable = [] := List.map_eq_nil_iff.mp hnil
  unfold ofLines at hm
  rw [hfilter] at hm
  cases hm
  cases hr

/-- Valid patterns are read one by one. -/
theorem separate_texts {r : Regex}
    (hvalid : ∀ line ∈ lines, Pattern.isUsable line = true →
      '\n' ∉ line ∧ ∃ r, Pattern.readLine line = .ok r)
    (hread : Regex.read (Pattern.alternation (Pattern.texts lines)) = .ok r) :
    Pattern.Separate (Pattern.texts lines) := by
  have hvalid' : ∀ line ∈ lines.filter Pattern.isUsable,
      '\n' ∉ line ∧ ∃ r, Pattern.readLine line = .ok r := by
    intro line hline
    obtain ⟨hmem, husable⟩ := List.mem_filter.mp hline
    exact hvalid line hmem husable
  obtain ⟨rs, hrs⟩ := exists_forall₂_readLine_iff.mpr fun line hline => (hvalid' line hline).2
  exact Pattern.separate_of_read (List.forall₂_map_left_iff.mpr hrs)
    (newline_notMem_unescape fun line hline => (hvalid' line hline).1) hread

/-- What a pattern does at the end of a stage. -/
theorem regex_concat {pattern : List Char} {m' : Matcher} {r : Regex}
    (husable : Pattern.isUsable pattern = true) (hm : ofLines stage lines = .ok m)
    (hm' : ofLines stage (lines ++ [pattern]) = .ok m') (hr : m.regex = some r) :
    ∃ r', m'.regex = some r' ∧
      ((∃ added, Pattern.appended (Pattern.texts lines) (Pattern.unescape pattern) = .ok added ∧
          ∀ text, Regex.search r' text = Regex.search (Expr.choice [r, added]) text) ∨
        Pattern.EndsVerbose (Pattern.texts lines) ∧ ('\n' ∉ pattern → r' = r)) := by
  have hne := texts_ne_nil hm hr
  have hconcat := Pattern.texts_concat lines husable
  -- both stages are read from their texts, of which one has the pattern at its end
  obtain ⟨r₁, hr₁, hread⟩ := exists_read_of_ofLines hne hm
  obtain rfl : r₁ = r := Option.some.inj (hr₁.symm.trans hr)
  obtain ⟨r', hr', hread'⟩ := exists_read_of_ofLines (by simp [hconcat]) hm'
  rw [hconcat] at hread'
  refine ⟨r', hr', (Pattern.read_appended hne hread hread').imp_right fun hhidden => ?_⟩
  exact ⟨hhidden.1, fun hnewline => hhidden.2 fun h => hnewline (Pattern.mem_of_mem_unescape h)⟩

/-- At the end of a stage of valid patterns, no comments are allowed and a pattern stands for the same
as alone. -/
theorem appended_of_valid {pattern : List Char} {alone : Matcher} {r : Regex}
    (hvalid : ∀ line ∈ lines, Pattern.isUsable line = true →
      '\n' ∉ line ∧ ∃ r, Pattern.readLine line = .ok r)
    (husable : Pattern.isUsable pattern = true) (hm : ofLines stage lines = .ok m)
    (hr : m.regex = some r) (halone : ofLines stage [pattern] = .ok alone) :
    ¬ Pattern.EndsVerbose (Pattern.texts lines) ∧ ∃ added, alone.regex = some added ∧
      Pattern.appended (Pattern.texts lines) (Pattern.unescape pattern) = .ok added := by
  have hne := texts_ne_nil hm hr
  have hsingle := Pattern.texts_singleton husable
  obtain ⟨_, _, hread⟩ := exists_read_of_ofLines hne hm
  obtain ⟨added, hadded, hreadAlone⟩ := exists_read_of_ofLines (by simp [hsingle]) halone
  rw [hsingle] at hreadAlone
  have hseparate := separate_texts hvalid hread
  exact ⟨hseparate.not_endsVerbose hne, added, hadded, hseparate.appended_eq hne hread hreadAlone⟩

end Matcher

/-! ## 3. Reported lines -/

namespace Matchers

variable {fast strict exclude : List (List Char)} {m m' : Matchers} {line : List Char}

theorem of_ofLines (h : ofLines fast strict exclude = .ok m) :
    Matcher.ofLines .fast fast = .ok m.fast ∧ Matcher.ofLines .strict strict = .ok m.strict ∧
      Matcher.ofLines .exclude exclude = .ok m.exclude := by
  -- naming the stage changes errors only
  have hok : ∀ {x : Except Regex.ReadError Matcher} {stage a},
      x.mapError (PatternError.invalid stage) = .ok a → x = .ok a := by
    intro x stage a hx
    cases x with
    | error e => cases hx
    | ok b =>
      cases hx
      rfl
  obtain ⟨mexclude, hexclude, h⟩ := Regex.Reader.bind_eq_ok h
  obtain ⟨mfast, hfast, h⟩ := Regex.Reader.bind_eq_ok h
  obtain ⟨mstrict, hstrict, h⟩ := Regex.Reader.bind_eq_ok h
  cases h
  exact ⟨hok hfast, hok hstrict, hok hexclude⟩

theorem isSome_check_iff :
    (m.check line).isSome ↔ shortLine < Utf8.size line ∧ m.fast.isMatch line = true ∧
      m.exclude.isMatch line = false ∧ ∃ found, m.strict.find line = some found ∧ found ≠ [] := by
  unfold check report
  by_cases hshort : Utf8.size line ≤ shortLine
  · simp [hshort, Nat.not_lt.mpr hshort]
  · rw [if_neg hshort]
    cases m.fast.isMatch line with
    | false => simp
    | true =>
      cases m.strict.find line with
      | none => simp
      | some found =>
        cases found <;> cases m.exclude.isMatch line <;> simp [Nat.lt_of_not_le hshort]

/-- An expression hides what the strict stage finds in a line. -/
def HiddenBy (m : Matchers) (added : Regex) (line : List Char) : Prop :=
  ∃ r, m.strict.regex = some r ∧ Regex.Hides added r line

theorem hiddenBy_iff {r added : Regex} (hr : m.strict.regex = some r) :
    m.HiddenBy added line ↔ Regex.Hides added r line := by
  simp only [HiddenBy, hr, Option.some.injEq, exists_eq_left']

/-- The strict stage of a reported line has an expression with a match that is not empty. -/
theorem exists_search_of_check {secret : List Char} (h : m.check line = some secret) :
    ∃ r span, m.strict.regex = some r ∧ Regex.search r line = some span ∧ 0 < span.2 := by
  obtain ⟨-, -, -, found, hfind, hne⟩ := isSome_check_iff.mp (Option.isSome_of_eq_some h)
  obtain ⟨r, hr, hfound⟩ := Matcher.find_eq_some_iff.mp hfind
  obtain ⟨span, hsearch, hpos⟩ := Regex.exists_find_ne_nil_iff.mp ⟨found, hfound, hne⟩
  exact ⟨r, span, hr, hsearch, hpos⟩

/-- With another strict stage, a reported line is reported exactly if that stage has a match that is
not empty. -/
theorem isSome_check_of_strict {secret : List Char} {r : Regex} (h : m.check line = some secret)
    (hfast : m'.fast = m.fast) (hexclude : m'.exclude = m.exclude) (hr : m'.strict.regex = some r) :
    (m'.check line).isSome ↔ ∃ span, Regex.search r line = some span ∧ 0 < span.2 := by
  obtain ⟨hlong, hadmits, hkeeps, -⟩ := isSome_check_iff.mp (Option.isSome_of_eq_some h)
  rw [isSome_check_iff, hfast, hexclude, ← Regex.exists_find_ne_nil_iff]
  simp only [hlong, hadmits, hkeeps, true_and, Matcher.find_eq_some_iff, hr, Option.some.injEq,
    exists_eq_left']

/-- A line that is reported is still reported after a pattern is appended to the strict stage, unless
the pattern hides the secret; at the end of valid patterns, it means the same as alone, and then the
line is lost exactly if the pattern hides the secret. -/
theorem reported_after_append {pattern secret : List Char} {alone : Matcher}
    (husable : Pattern.isUsable pattern = true)
    (halone : Matcher.ofLines .strict [pattern] = .ok alone)
    (hm : ofLines fast strict exclude = .ok m)
    (hm' : ofLines fast (strict ++ [pattern]) exclude = .ok m')
    (hreported : m.check line = some secret) :
    ('\n' ∉ pattern → (m'.check line).isSome ∨
        ∃ added, Pattern.appended (Pattern.texts strict) (Pattern.unescape pattern) = .ok added ∧
          m.HiddenBy added line) ∧
      ((∀ s ∈ strict, Pattern.isUsable s = true → '\n' ∉ s ∧ ∃ r, Pattern.readLine s = .ok r) →
        ∃ added, alone.regex = some added ∧ ((m'.check line).isSome ↔ ¬ m.HiddenBy added line)) := by
  obtain ⟨hfast, hstrict, hexclude⟩ := of_ofLines hm
  obtain ⟨hfast', hstrict', hexclude'⟩ := of_ofLines hm'
  obtain ⟨r, span, hr, hsearch, hpos⟩ := exists_search_of_check hreported
  obtain ⟨r', hr', hcases⟩ := Matcher.regex_concat husable hstrict hstrict' hr
  -- only the strict stage is another one
  have hreports : (m'.check line).isSome ↔
      ∃ span, Regex.search r' line = some span ∧ 0 < span.2 :=
    isSome_check_of_strict hreported (Except.ok.inj (hfast'.symm.trans hfast))
      (Except.ok.inj (hexclude'.symm.trans hexclude)) hr'
  have hchosen : ∀ {added}, (∀ text, Regex.search r' text =
      Regex.search (Expr.choice [r, added]) text) →
        ((m'.check line).isSome ↔ ¬ m.HiddenBy added line) := by
    intro added hchoice
    rw [hreports, hiddenBy_iff hr, hchoice]
    exact Regex.exists_search_pair_iff hsearch hpos
  constructor
  · intro hnewline
    rcases hcases with ⟨added, hadded, hchoice⟩ | ⟨-, hhidden⟩
    · by_cases hhides : m.HiddenBy added line
      · exact .inr ⟨added, hadded, hhides⟩
      · exact .inl ((hchosen hchoice).mpr hhides)
    · rw [hhidden hnewline] at hreports
      exact .inl (hreports.mpr ⟨span, hsearch, hpos⟩)
  · intro hvalid
    obtain ⟨hnot, added, halone, hsame⟩ :=
      Matcher.appended_of_valid hvalid husable hstrict hr halone
    rcases hcases with ⟨other, hother, hchoice⟩ | ⟨hverbose, -⟩
    · cases hother.symm.trans hsame
      exact ⟨added, halone, hchosen hchoice⟩
    · exact absurd hverbose hnot

/-- A pattern that does not match a line hides nothing there. -/
theorem reported_after_append_unmatched :
    ∃ alone m m', Matcher.ofLines .strict ["z+".toList] = .ok alone ∧
      ofLines ["token".toList] ["token".toList] [] = .ok m ∧
      ofLines ["token".toList] (["token".toList] ++ ["z+".toList]) [] = .ok m' ∧
      m.check "my token abc".toList = some "token".toList ∧
      (m'.check "my token abc".toList).isSome ∧
      ∃ added, alone.regex = some added ∧ ¬ m.HiddenBy added "my token abc".toList := by
  obtain ⟨alone, halone, hunmatched⟩ := exists_ok_of_any (x := Matcher.ofLines .strict ["z+".toList])
    (p := fun alone => !alone.isMatch "my token abc".toList) (by decide +kernel)
  obtain ⟨m, hm, hcheck⟩ := exists_ok_of_any (x := ofLines ["token".toList] ["token".toList] [])
    (p := fun m => m.check "my token abc".toList == some "token".toList) (by decide +kernel)
  obtain ⟨m', hm', -⟩ := exists_ok_of_any (p := fun _ => true)
    (x := ofLines ["token".toList] (["token".toList] ++ ["z+".toList]) []) (by decide +kernel)
  have hcheck := eq_of_beq hcheck
  obtain ⟨added, hadded, hiff⟩ := (reported_after_append (by decide) halone hm hm' hcheck).2 <| by
    intro s hs _
    obtain rfl := List.mem_singleton.mp hs
    exact ⟨by decide, _, rfl⟩
  -- what hides a secret has a match in the line
  have hnot : ¬ m.HiddenBy added "my token abc".toList := by
    rintro ⟨-, -, i, -, hsearch, -⟩
    simp only [Matcher.isMatch, hadded, Regex.matchesIn, hsearch] at hunmatched
    cases hunmatched
  exact ⟨alone, m, m', halone, hm, hm', hcheck, hiff.mpr hnot, added, hadded, hnot⟩

/-- A pattern that matches the empty text hides a secret further to the right. -/
theorem hidden_after_append_star :
    ∃ alone m m', Pattern.isUsable "z*".toList = true ∧
      Matcher.ofLines .strict ["z*".toList] = .ok alone ∧
      ofLines ["token".toList] ["token".toList] [] = .ok m ∧
      ofLines ["token".toList] (["token".toList] ++ ["z*".toList]) [] = .ok m' ∧
      m.check "my token abc".toList = some "token".toList ∧
      m'.check "my token abc".toList = none := by
  obtain ⟨alone, halone, -⟩ := exists_ok_of_any (x := Matcher.ofLines .strict ["z*".toList])
    (p := fun _ => true) (by decide +kernel)
  obtain ⟨m, hm, hcheck⟩ := exists_ok_of_any (x := ofLines ["token".toList] ["token".toList] [])
    (p := fun m => m.check "my token abc".toList == some "token".toList) (by decide +kernel)
  obtain ⟨m', hm', hcheck'⟩ := exists_ok_of_any
    (x := ofLines ["token".toList] (["token".toList] ++ ["z*".toList]) [])
    (p := fun m => m.check "my token abc".toList == none) (by decide +kernel)
  exact ⟨alone, m, m', by decide, halone, hm, hm', eq_of_beq hcheck, eq_of_beq hcheck'⟩

end Matchers

end SecretScan
