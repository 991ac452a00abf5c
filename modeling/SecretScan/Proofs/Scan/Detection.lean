import SecretScan.Proofs.Regex.Shape
import SecretScan.Proofs.Scan.Screen

/-!
# What the built-in stages report and discard

The built-in strict stage finds every keyword to which a quoted value is assigned, so the line with it
is reported unless the exclude stage discards the line (`Matchers.builtIn_reports_assignments`).  The
built-in exclude stage discards every line that looks a value up (`Matchers.builtIn_discards_lookups`).
In both cases it does not matter what else stands in the line.
-/

namespace SecretScan

/-! ## 1. Quoted assignments -/

namespace QuotedAssignment

/-- The keywords. -/
def keywords : List String :=
  ["password", "passwd", "pwd", "secret", "token", "apikey", "api_key", "api-key", "accesskey",
   "access_key", "access-key", "clientsecret", "client_secret", "client-secret", "credential"]

/-- What may stand between a name and its value. -/
def separators : List String := [":=", "=>", ":", "="]

/-- The quotes. -/
def quotes : List Char := ['"', '\'']

end QuotedAssignment

open QuotedAssignment in
/-- A keyword in any letter case, perhaps with a quote after it, a separator, perhaps between blanks,
and in quotes a value of at least four characters, none of which is a quote or a blank. -/
structure QuotedAssignment where
  keyword : String
  keyword_mem : keyword ∈ keywords
  name : List Char
  name_alike : CaseFold.Alike keyword.toList name
  quote : Option Char
  quote_mem : ∀ c ∈ quote, c ∈ quotes
  left : List Char
  left_blank : ∀ c ∈ left, isBlank c = true
  separator : String
  separator_mem : separator ∈ separators
  right : List Char
  right_blank : ∀ c ∈ right, isBlank c = true
  opening : Char
  opening_mem : opening ∈ quotes
  value : List Char
  four_le : 4 ≤ value.length
  value_solid : ∀ c ∈ value, c ∉ quotes ∧ isBlank c = false
  closing : Char
  closing_mem : closing ∈ quotes

namespace QuotedAssignment

/-- The text of an assignment. -/
def text (a : QuotedAssignment) : List Char :=
  [a.name, a.quote.toList, a.left, a.separator.toList, a.right, [a.opening], a.value,
    [a.closing]].flatten

/-- The quotes. -/
def quoteSet : CharSet := .ofCodes (quotes.map Char.toNat)

/-- The blanks. -/
def blankSet : CharSet := .table Blank.ranges

/-- The characters of values, in the form that a class of an expression that ignores case has. -/
def valueSet : CharSet := .compl (.folded (.union (.single '"') (.union (.single '\'') blankSet)))

theorem has_quoteSet {c : Char} (h : c ∈ quotes) : quoteSet.has c = true :=
  CharSet.mem_ofCodes.mpr (List.mem_map_of_mem h)

theorem has_valueSet {c : Char} (hquote : c ∉ quotes) (hblank : isBlank c = false) :
    valueSet.has c = true := by
  -- the set leaves out quotes and blanks, together with what differs from them in case
  have hmem : ∀ d, CharSet.mem (.union (.single '"') (.union (.single '\'') blankSet)) d = true →
      d = '"'.toNat ∨ d = '\''.toNat ∨ Blank.ranges.covers d = true := by
    intro d hd
    rw [CharSet.mem, Bool.or_eq_true, CharSet.mem, Bool.or_eq_true] at hd
    exact hd.imp CharSet.mem_range_self.mp (Or.imp_left CharSet.mem_range_self.mp)
  -- none of these has another case, so nothing more is left out
  have hcaseless : ∀ d ∈ '"'.toNat :: '\''.toNat :: Blank.points,
      CaseFold.isCaseless d = true := by decide +kernel
  show (!CharSet.mem (.folded _) c.toNat) = true
  rw [Bool.not_eq_true', Bool.eq_false_iff]
  intro hfolded
  have hset := CharSet.mem_of_mem_folded (fun d hd => hcaseless d ?_) hfolded
  · rcases hmem _ hset with hc | hc | hc
    · exact hquote (by simp [quotes, Char.toNat_inj.mp hc])
    · exact hquote (by simp [quotes, Char.toNat_inj.mp hc])
    · rw [isBlank, hc] at hblank
      cases hblank
  · rcases hmem d hd with rfl | rfl | hd
    · exact List.mem_cons_self
    · exact List.mem_cons_of_mem _ List.mem_cons_self
    · exact List.mem_cons_of_mem _ (List.mem_cons_of_mem _ (Blank.mem_points_of_covers hd))

/-- The shape of assignments to a keyword. -/
def shape (keyword separator : List Char) (quoted : Bool) : Shape :=
  [Shape.word keyword, if quoted then [.one quoteSet] else [], [.any blankSet],
    Shape.exactly separator, [.any blankSet], [.one quoteSet], Shape.atLeast valueSet 4,
    [.one quoteSet]].flatten

theorem spells_text (a : QuotedAssignment) :
    (shape a.keyword.toList a.separator.toList a.quote.isSome).Spells a.text := by
  have hquote : Shape.Spells (if a.quote.isSome then [.one quoteSet] else []) a.quote.toList := by
    have hmem := a.quote_mem
    revert hmem
    cases a.quote with
    | none => exact fun _ => rfl
    | some c => exact fun hmem => Shape.spells_one (has_quoteSet (hmem c (Option.mem_some_self c)))
  have hvalue : Shape.Spells (Shape.atLeast valueSet 4) a.value :=
    Shape.spells_atLeast a.four_le fun c hc =>
      has_valueSet (a.value_solid c hc).1 (a.value_solid c hc).2
  -- the parts of the text come in the order of the parts of the shape
  refine Shape.spells_flatten (.cons ?_ (.cons hquote (.cons ?_ (.cons ?_ (.cons ?_ (.cons ?_
    (.cons hvalue (.cons ?_ .nil))))))))
  · exact Shape.spells_word a.name_alike
  · exact Shape.spells_any a.left_blank
  · exact Shape.spells_exactly a.separator.toList
  · exact Shape.spells_any a.right_blank
  · exact Shape.spells_one (has_quoteSet a.opening_mem)
  · exact Shape.spells_one (has_quoteSet a.closing_mem)

/-- Whether an expression leads along the shapes of all assignments. -/
def areFound (r : Regex) : Bool :=
  keywords.all fun keyword => separators.all fun separator => [true, false].all fun quoted =>
    r.leadsAlong (shape keyword.toList separator.toList quoted)

theorem matchesIn_of_areFound {r : Regex} (h : areFound r = true) (a : QuotedAssignment)
    (before after : List Char) : r.matchesIn (before ++ a.text ++ after) = true := by
  have hseparators := List.all_eq_true.mp h a.keyword a.keyword_mem
  have hquoted := List.all_eq_true.mp hseparators a.separator a.separator_mem
  have hleads := List.all_eq_true.mp hquoted a.quote.isSome (by cases a.quote <;> simp)
  have hspells := a.spells_text
  exact Regex.matchesIn_of_leadsAlong hleads hspells before after

end QuotedAssignment

/-! ## 2. Lookups -/

namespace Lookup

/-- What reads a value from the environment. -/
def readers : List String := ["os.getenv", "os.environ", "process.env", "System.getenv", "ENV["]

end Lookup

/-- A text that stands for a value which is found elsewhere. -/
inductive Lookup : List Char → Prop
  /-- A value that a shell or a template puts in. -/
  | shell (name : List Char) : Lookup (['$', '{'] ++ name ++ ['}'])
  | template (name : List Char) (h : '}' ∉ name) : Lookup (['{', '{'] ++ name ++ ['}', '}'])
  /-- A reader of the environment, in any letter case. -/
  | environment (reader : String) (h : reader ∈ Lookup.readers) (text : List Char)
    (halike : CaseFold.Alike reader.toList text) : Lookup text

namespace Lookup

/-- What is no closing brace. -/
def innerSet : CharSet := .compl (.single '}')

/-- The shape of a name between opening and closing braces. -/
def braced (opening closing : List Char) : Shape :=
  [Shape.exactly opening, [.any innerSet], Shape.exactly closing].flatten

theorem spells_braced (opening closing : List Char) {name : List Char} (h : '}' ∉ name) :
    (braced opening closing).Spells (opening ++ name ++ closing) := by
  have hname : ∀ c ∈ name, innerSet.has c = true := by
    intro c hc
    show (!CharSet.mem (.single '}') c.toNat) = true
    rw [Bool.not_eq_true', Bool.eq_false_iff]
    intro hmem
    exact h (Char.toNat_inj.mp (CharSet.mem_range_self.mp hmem) ▸ hc)
  have htext : opening ++ name ++ closing = [opening, name, closing].flatten := by simp
  rw [htext]
  exact Shape.spells_flatten (.cons (Shape.spells_exactly opening)
    (.cons (Shape.spells_any hname) (.cons (Shape.spells_exactly closing) .nil)))

/-- The shapes of lookups. -/
def shapes : List Shape :=
  braced ['$', '{'] ['}'] :: braced ['{', '{'] ['}', '}'] ::
    readers.map fun reader => Shape.word reader.toList

/-- A lookup begins with a text of one of these shapes. -/
theorem exists_shape {text : List Char} (h : Lookup text) :
    ∃ shape ∈ shapes, ∃ head rest, text = head ++ rest ∧ shape.Spells head := by
  cases h with
  | shell name =>
    -- the first closing brace ends the lookup
    have hclosing : '}' ∈ name ++ ['}'] := List.mem_append_right _ List.mem_cons_self
    obtain ⟨inner, rest, hname, hinner⟩ := List.eq_append_cons_of_mem hclosing
    refine ⟨_, List.mem_cons_self, ['$', '{'] ++ inner ++ ['}'], rest, ?_, spells_braced _ _ hinner⟩
    rw [List.append_assoc, hname]
    simp
  | template name hname =>
    exact ⟨_, List.mem_cons_of_mem _ List.mem_cons_self, _, [], (List.append_nil _).symm,
      spells_braced _ _ hname⟩
  | environment reader hreader _ halike =>
    exact ⟨_, List.mem_cons_of_mem _ (List.mem_cons_of_mem _ (List.mem_map_of_mem hreader)), _, [],
      (List.append_nil _).symm, Shape.spells_word halike⟩

/-- Whether an expression leads along the shapes of all lookups. -/
def areFound (r : Regex) : Bool := shapes.all r.leadsAlong

theorem matchesIn_of_areFound {r : Regex} (h : areFound r = true) {text line : List Char}
    (htext : Lookup text) (hline : text <:+: line) : r.matchesIn line = true := by
  obtain ⟨shape, hshape, head, rest, rfl, hspells⟩ := htext.exists_shape
  obtain ⟨before, after, rfl⟩ := hline
  have hfound := Regex.matchesIn_of_leadsAlong (List.all_eq_true.mp h shape hshape) hspells before
    (rest ++ after)
  simpa only [List.append_assoc] using hfound

end Lookup

/-! ## 3. The built-in stages -/

theorem Matcher.isMatch_of_any {m : Matcher} {check : Regex → Bool} (h : m.regex.any check = true)
    {line : List Char} (hcheck : ∀ r, check r = true → r.matchesIn line = true) :
    m.isMatch line = true := by
  rw [Option.any_eq_true] at h
  obtain ⟨r, hr, hsome⟩ := h
  rw [isMatch, hr]
  exact hcheck r hsome

theorem Matcher.isSome_find (m : Matcher) (line : List Char) :
    (m.find line).isSome = m.isMatch line := by
  unfold find isMatch
  cases m.regex with
  | none => rfl
  | some r => exact Option.isSome_map

namespace Matchers

variable {m : Matchers}

/-- Whether the strict stage is seen to find all assignments, and the exclude stage all lookups. -/
def findsAll (m : Matchers) : Bool :=
  m.strict.regex.any QuotedAssignment.areFound && m.exclude.regex.any Lookup.areFound

set_option maxRecDepth 100000 in
theorem exists_builtIn_findsAll : ∃ m, builtIn = .ok m ∧ m.findsAll = true := by
  have hnil : ([] : List String).map String.toList = [] := rfl
  apply exists_builtIn_of_any
  iterate 4
    · repeat apply Pattern.map_toList_cons
      exact hnil
  · decide +kernel
  · decide +kernel

/-- A line that the exclude stage matches is not reported. -/
theorem report_eq_none_of_exclude {line : List Char} (h : m.exclude.isMatch line = true) :
    m.report line = none := by
  unfold report
  simp only [h, if_true]
  split
  · split <;> rfl
  · rfl

/-- The built-in stages report a line with a quoted assignment, whatever stands around it, exactly if
the exclude stage does not match the line. -/
theorem builtIn_reports_assignments : ∃ m, builtIn = .ok m ∧
    ∀ (a : QuotedAssignment) (before after : List Char),
      (m.check (before ++ a.text ++ after)).isSome ↔
        m.exclude.isMatch (before ++ a.text ++ after) = false := by
  obtain ⟨m, hm, hscreened, -⟩ := exists_builtIn
  obtain ⟨m', hm', hfinds⟩ := exists_builtIn_findsAll
  cases hm.symm.trans hm'
  refine ⟨m, hm, fun a before after => ?_⟩
  generalize hline : before ++ a.text ++ after = line
  -- the strict stage finds the assignment whatever stands around it
  have hfound : (m.strict.find line).isSome = true := by
    rw [← hline, Matcher.isSome_find]
    exact Matcher.isMatch_of_any (Bool.and_eq_true_iff.mp hfinds).1 fun r hr =>
      QuotedAssignment.matchesIn_of_areFound hr a before after
  rw [(lossless_of_isScreened hscreened).check_eq, extract]
  cases m.exclude.isMatch line <;> simp [hfound]

/-- The built-in stages report no line with a lookup, whatever else stands in the line. -/
theorem builtIn_discards_lookups : ∃ m, builtIn = .ok m ∧
    (∀ text line, Lookup text → text <:+: line → m.check line = none) ∧
    ∀ content, ∀ hit ∈ m.scan content, ∀ text, Lookup text → ¬ text <:+: hit.line := by
  obtain ⟨m, hm, hfinds⟩ := exists_builtIn_findsAll
  -- the exclude stage matches a lookup wherever it stands in a line
  have hexclude : ∀ text line, Lookup text → text <:+: line → m.report line = none :=
    fun text line htext hline => report_eq_none_of_exclude <|
      Matcher.isMatch_of_any (Bool.and_eq_true_iff.mp hfinds).2 fun r hr =>
        Lookup.matchesIn_of_areFound hr htext hline
  refine ⟨m, hm, fun text line htext hline => ?_, fun content hit hhit text htext hline => ?_⟩
  · unfold check
    split
    · rfl
    · exact hexclude text line htext hline
  · have hreport := report_of_mem_scan hhit
    rw [hexclude text hit.line htext hline] at hreport
    cases hreport

end Matchers

end SecretScan
