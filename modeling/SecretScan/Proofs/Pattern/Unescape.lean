import Mathlib
import SecretScan.Pattern.Matcher

/-!
# Shell escapes in lines

Shell escapes are taken off in one pass from left to right, which takes one piece of the text after
the other (`pieces`).  The pass can start anew at a seam between two texts unless an escape lies
across it.  None lies across the parentheses around a line, so taking off the escapes of an
alternation is the same as taking them off its lines (`unescape_seams`).
-/

namespace SecretScan.Pattern

/-! ## 1. The pieces of a text -/

/-- A character that a backslash before it escapes. -/
def IsEscapable (c : Char) : Prop := c = '\\' ∨ c = '"'

/-- A text goes on with something that a backslash before it would escape. -/
def BeginsEscapable (cs : List Char) : Prop := ∃ c ∈ cs.head?, IsEscapable c

/-- What the pass takes at a time: a backslash together with what it escapes, or one character. -/
inductive Piece where
  | escaped (c : Char)
  | plain (c : Char)
  deriving DecidableEq, Repr

namespace Piece

/-- The characters that are taken from the text. -/
def text : Piece → List Char
  | escaped c => ['\\', c]
  | plain c => [c]

/-- The character that is put in their place. -/
def char : Piece → Char
  | escaped c => c
  | plain c => c

def isEscaped : Piece → Bool
  | escaped _ => true
  | plain _ => false

end Piece

/-- The pieces that the pass takes, from left to right. -/
def pieces : List Char → List Piece
  | '\\' :: '\\' :: cs => .escaped '\\' :: pieces cs
  | '\\' :: '"' :: cs => .escaped '"' :: pieces cs
  | c :: cs => .plain c :: pieces cs
  | [] => []

theorem pieces_escaped {c : Char} (hc : IsEscapable c) (cs : List Char) :
    pieces ('\\' :: c :: cs) = .escaped c :: pieces cs := by
  rcases hc with rfl | rfl <;> rfl

theorem pieces_plain {c : Char} {cs : List Char} (h : ¬(c = '\\' ∧ BeginsEscapable cs)) :
    pieces (c :: cs) = .plain c :: pieces cs := by
  rw [pieces]
  · intro rest hc hcs
    exact h ⟨hc, '\\', by rw [hcs]; rfl, .inl rfl⟩
  · intro rest hc hcs
    exact h ⟨hc, '"', by rw [hcs]; rfl, .inr rfl⟩

/-- Induction along the pass. -/
@[elab_as_elim]
theorem passInduction {motive : List Char → Prop} (nil : motive [])
    (escaped : ∀ c cs, IsEscapable c → motive cs → motive ('\\' :: c :: cs))
    (plain : ∀ c cs, ¬(c = '\\' ∧ BeginsEscapable cs) → motive cs → motive (c :: cs))
    (cs : List Char) : motive cs := by
  fun_induction pieces cs with
  | case1 cs ih => exact escaped '\\' cs (.inl rfl) ih
  | case2 cs ih => exact escaped '"' cs (.inr rfl) ih
  | case3 c cs hslash hquote ih =>
    apply plain c cs _ ih
    intro h
    -- the pass would have taken an escapable character together with the backslash
    obtain ⟨hc, d, hd, hescapable⟩ := h
    have hcs : cs = d :: cs.tail := List.eq_cons_of_mem_head? hd
    cases hescapable with
    | inl heq => exact hslash _ hc (heq ▸ hcs)
    | inr heq => exact hquote _ hc (heq ▸ hcs)
  | case4 => exact nil

/-- The pieces make up the text. -/
theorem flatMap_text_pieces (cs : List Char) : (pieces cs).flatMap Piece.text = cs := by
  induction cs using passInduction with
  | nil => rfl
  | escaped c cs hc ih =>
    rw [pieces_escaped hc, List.flatMap_cons, ih]
    rfl
  | plain c cs h ih =>
    rw [pieces_plain h, List.flatMap_cons, ih]
    rfl

/-- The pass gives one character for each piece. -/
theorem unescape_eq_map_pieces (cs : List Char) : unescape cs = (pieces cs).map Piece.char := by
  fun_induction unescape cs with
  | case1 cs ih => rw [ih, pieces, List.map_cons, Piece.char]
  | case2 cs ih => rw [ih, pieces, List.map_cons, Piece.char]
  | case3 c cs hslash hquote ih => rw [ih, pieces, List.map_cons, Piece.char] <;> assumption
  | case4 => rfl

theorem unescape_sublist (cs : List Char) : (unescape cs).Sublist cs := by
  rw [unescape_eq_map_pieces]
  induction cs using passInduction with
  | nil => exact .slnil
  | escaped c cs hc ih =>
    rw [pieces_escaped hc]
    exact (ih.cons_cons c).cons '\\'
  | plain c cs h ih =>
    rw [pieces_plain h]
    exact ih.cons_cons c

theorem mem_of_mem_unescape {c : Char} {cs : List Char} (h : c ∈ unescape cs) : c ∈ cs :=
  (unescape_sublist cs).subset h

/-! ## 2. Seams -/

/-- The pass over a text ends with a backslash that escapes nothing. -/
def EndsOpen (cs : List Char) : Prop := (pieces cs).getLast? = some (.plain '\\')

instance (cs : List Char) : Decidable (EndsOpen cs) :=
  inferInstanceAs (Decidable ((pieces cs).getLast? = some (.plain '\\')))

theorem not_endsOpen_nil : ¬EndsOpen [] := nofun

theorem endsOpen_escaped {c : Char} (hc : IsEscapable c) (cs : List Char) :
    EndsOpen ('\\' :: c :: cs) ↔ EndsOpen cs := by
  unfold EndsOpen
  rw [pieces_escaped hc, List.getLast?_cons]
  cases (pieces cs).getLast? with
  | none => simp
  | some piece => rfl

theorem endsOpen_plain {c : Char} {cs : List Char} (h : ¬(c = '\\' ∧ BeginsEscapable cs)) :
    EndsOpen (c :: cs) ↔ EndsOpen cs ∨ c = '\\' ∧ cs = [] := by
  unfold EndsOpen
  rw [pieces_plain h, List.getLast?_cons]
  by_cases hcs : cs = []
  · subst hcs
    simp [pieces]
  · -- a text that is not empty has a last piece
    have hne : pieces cs ≠ [] := by
      intro hnil
      apply hcs
      rw [← flatMap_text_pieces cs, hnil, List.flatMap_nil]
    rw [List.getLast?_eq_some_getLast hne]
    simp [hcs]

theorem beginsEscapable_append {cs : List Char} (hcs : cs ≠ []) (rest : List Char) :
    BeginsEscapable (cs ++ rest) ↔ BeginsEscapable cs := by
  unfold BeginsEscapable
  rw [List.head?_append_of_ne_nil _ hcs]

/-- A backslash at the end that escapes nothing takes an escapable character after the seam along. -/
theorem pieces_append_of_endsOpen {cs : List Char} (hopen : EndsOpen cs) {c : Char}
    (hc : IsEscapable c) (rest : List Char) :
    pieces (cs ++ c :: rest) = (pieces cs).dropLast ++ .escaped c :: pieces rest := by
  induction cs using passInduction with
  | nil => exact absurd hopen not_endsOpen_nil
  | escaped d cs hd ih =>
    have hopen : EndsOpen cs := (endsOpen_escaped hd cs).mp hopen
    have hne : pieces cs ≠ [] := fun hnil => by simp [EndsOpen, hnil] at hopen
    rw [List.cons_append, List.cons_append, pieces_escaped hd, pieces_escaped hd, ih hopen,
      List.dropLast_cons_of_ne_nil hne, List.cons_append]
  | plain d cs hplain ih =>
    -- the open backslash comes further on, or it is this character and the last one
    cases (endsOpen_plain hplain).mp hopen with
    | inl hopen =>
      have hne : pieces cs ≠ [] := fun hnil => by simp [EndsOpen, hnil] at hopen
      have hcs : cs ≠ [] := fun hnil => not_endsOpen_nil (hnil ▸ hopen)
      have hseam : ¬(d = '\\' ∧ BeginsEscapable (cs ++ c :: rest)) := by
        rwa [beginsEscapable_append hcs]
      rw [List.cons_append, pieces_plain hseam, pieces_plain hplain, ih hopen,
        List.dropLast_cons_of_ne_nil hne, List.cons_append]
    | inr h =>
      rw [h.1, h.2]
      exact pieces_escaped hc rest

/-- Otherwise the pass starts anew at the seam. -/
theorem pieces_append {cs rest : List Char} (h : ¬(EndsOpen cs ∧ BeginsEscapable rest)) :
    pieces (cs ++ rest) = pieces cs ++ pieces rest := by
  induction cs using passInduction with
  | nil => rfl
  | escaped c cs hc ih =>
    rw [endsOpen_escaped hc] at h
    rw [List.cons_append, List.cons_append, pieces_escaped hc, pieces_escaped hc, ih h,
      List.cons_append]
  | plain c cs hplain ih =>
    rw [endsOpen_plain hplain] at h
    -- only the last character before the seam looks beyond it
    have hseam : ¬(c = '\\' ∧ BeginsEscapable (cs ++ rest)) := by
      by_cases hcs : cs = []
      · intro hc
        rw [hcs] at hc
        exact h ⟨.inr ⟨hc.1, hcs⟩, hc.2⟩
      · rwa [beginsEscapable_append hcs]
    rw [List.cons_append, pieces_plain hseam, pieces_plain hplain,
      ih fun hcs => h ⟨.inl hcs.1, hcs.2⟩, List.cons_append]

theorem unescape_append {cs rest : List Char} (h : ¬(EndsOpen cs ∧ BeginsEscapable rest)) :
    unescape (cs ++ rest) = unescape cs ++ unescape rest := by
  rw [unescape_eq_map_pieces, pieces_append h, List.map_append, ← unescape_eq_map_pieces,
    ← unescape_eq_map_pieces]

theorem unescape_append_of_endsOpen {cs : List Char} (hopen : EndsOpen cs) {c : Char}
    (hc : IsEscapable c) (rest : List Char) :
    unescape (cs ++ c :: rest) = (unescape cs).dropLast ++ c :: unescape rest := by
  rw [unescape_eq_map_pieces, pieces_append_of_endsOpen hopen hc, List.map_append,
    List.map_dropLast, ← unescape_eq_map_pieces, List.map_cons, ← unescape_eq_map_pieces]
  rfl

/-- A backslash at the end is open unless it is escaped by an open one before it. -/
theorem endsOpen_concat (cs : List Char) (c : Char) :
    EndsOpen (cs ++ [c]) ↔ c = '\\' ∧ ¬EndsOpen cs := by
  -- an open backslash takes the new character along, and otherwise it stands for itself
  by_cases hopen : EndsOpen cs ∧ IsEscapable c
  · have hpieces := pieces_append_of_endsOpen hopen.1 hopen.2 []
    rw [EndsOpen, hpieces]
    simp [pieces, hopen.1]
  · have hseam : ¬(EndsOpen cs ∧ BeginsEscapable [c]) := by simpa [BeginsEscapable] using hopen
    have hsingle : pieces [c] = [.plain c] := pieces_plain (by simp [BeginsEscapable])
    rw [EndsOpen, pieces_append hseam, hsingle, List.getLast?_concat]
    constructor
    · intro heq
      obtain rfl : c = '\\' := Piece.plain.inj (Option.some.inj heq)
      exact ⟨rfl, fun hcs => hopen ⟨hcs, .inl rfl⟩⟩
    · intro h
      rw [h.1]

/-- It is so exactly if the number of backslashes at the end is odd. -/
theorem endsOpen_iff_odd (cs : List Char) :
    EndsOpen cs ↔ Odd (cs.rtakeWhile (· = '\\')).length := by
  induction cs using List.reverseRecOn with
  | nil => simp [not_endsOpen_nil]
  | append_singleton cs c ih =>
    rw [endsOpen_concat, List.rtakeWhile_concat, ih]
    by_cases hc : c = '\\'
    · simp [hc, Nat.odd_add_one]
    · simp [hc]

/-! ## 3. Lines -/

/-- No escape lies across a seam before a character that cannot be escaped. -/
theorem unescape_append_cons {c : Char} (hc : ¬IsEscapable c) (cs rest : List Char) :
    unescape (cs ++ c :: rest) = unescape cs ++ c :: unescape rest := by
  have hseam : ¬BeginsEscapable (c :: rest) := by simpa [BeginsEscapable] using hc
  have hplain : pieces (c :: rest) = .plain c :: pieces rest :=
    pieces_plain fun h => hc (.inl h.1)
  rw [unescape_append fun h => hseam h.2, unescape_eq_map_pieces (c :: rest), hplain,
    List.map_cons, ← unescape_eq_map_pieces]
  rfl

/-- The shell escapes of an alternation are those of its lines. -/
theorem unescape_alternation (lines : List (List Char)) :
    unescape (alternation lines) = alternation (lines.map unescape) := by
  -- parentheses and bars are not escapable, so the pass starts anew at each of them
  have hopen : ∀ cs, unescape ('(' :: cs) = '(' :: unescape cs :=
    unescape_append_cons (by simp [IsEscapable]) []
  have hclose : ∀ cs rest, unescape (cs ++ ')' :: rest) = unescape cs ++ ')' :: unescape rest :=
    unescape_append_cons (by simp [IsEscapable])
  have hbar : ∀ cs, unescape ('|' :: cs) = '|' :: unescape cs :=
    unescape_append_cons (by simp [IsEscapable]) []
  induction lines with
  | nil => rfl
  | cons line lines ih =>
    cases lines with
    | nil =>
      simp only [alternation, List.map_cons, List.map_nil, List.cons_append, hopen, hclose]
      rfl
    | cons line' lines =>
      simp only [alternation, List.map_cons, List.cons_append, hopen, hclose, hbar] at ih ⊢
      rw [ih]

/-- No escape goes over the end of a line, whatever it ends with and whatever the next one begins
with.  Between two texts, one goes over the seam exactly if an odd number of backslashes ends the
first, and what it escapes begins the second. -/
theorem unescape_seams (lines : List (List Char)) (cs rest : List Char) :
    unescape (alternation lines) = alternation (lines.map unescape) ∧
    (¬(EndsOpen cs ∧ BeginsEscapable rest) →
      unescape (cs ++ rest) = unescape cs ++ unescape rest) ∧
    (EndsOpen cs → ∀ c, IsEscapable c →
      unescape (cs ++ c :: rest) = (unescape cs).dropLast ++ c :: unescape rest) ∧
    (EndsOpen cs ↔ Odd (cs.rtakeWhile (· = '\\')).length) :=
  ⟨unescape_alternation lines, unescape_append,
    fun hopen _ hc => unescape_append_of_endsOpen hopen hc rest, endsOpen_iff_odd cs⟩

/-- A backslash at the end of a line does not escape the quote that begins the next one.  Without the
parentheses between them it does, unless it is escaped itself. -/
theorem unescape_seams_quote :
    unescape (alternation ["a\\".toList, "\"b".toList]) = "(a\\)|(\"b)".toList ∧
    EndsOpen "a\\".toList ∧ unescape ("a\\".toList ++ "\"b".toList) = "a\"b".toList ∧
    ¬EndsOpen "a\\\\".toList ∧
    unescape ("a\\\\".toList ++ "\"b".toList) = "a\\\"b".toList := by
  have hopen : EndsOpen "a\\".toList := by decide
  have hescaped : ¬EndsOpen "a\\\\".toList := by decide
  have hlines := (unescape_seams ["a\\".toList, "\"b".toList] [] []).1
  have hquote := (unescape_seams [] "a\\".toList "b".toList).2.2.1 hopen '"' (.inr rfl)
  have hseam := (unescape_seams [] "a\\\\".toList "\"b".toList).2.1 fun h => hescaped h.1
  exact ⟨hlines, hopen, hquote, hescaped, hseam⟩

end SecretScan.Pattern
