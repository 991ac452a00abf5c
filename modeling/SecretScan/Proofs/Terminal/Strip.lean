import Mathlib
import SecretScan.Terminal.Strip
import SecretScan.Terminal.Style

/-!
# What is left of a text without terminal controls

Only characters that are shown are left of a text, so it loses nothing exactly if all of it is shown
(`strip_eq_self_iff`).  A text without escape characters only loses its hidden characters, and a style
adds nothing to it (`Style.strip_apply_append`).
-/

namespace SecretScan.Terminal

variable {text : List Char} {c : Char}

/-! ## 1. Characters that are left -/

/-- Whether a character has an effect on a terminal instead of being shown there.  The line feed is
one of them. -/
def isControl (c : Char) : Bool := c.toNat < 0x20 || (0x80 ≤ c.toNat && c.toNat ≤ 0x9f)

theorem isControl_eq_false_iff : isControl c = false ↔ c ≠ '\n' ∧ isShown c = true := by
  have hshown : isShown c = (c == '\n' || !isControl c) := rfl
  by_cases hc : c = '\n'
  · subst hc
    decide
  · simp [hshown, hc]

theorem isControl_of_isDigit (h : c.isDigit = true) : isControl c = false := by
  have hbounds : 48 ≤ c.toNat ∧ c.toNat ≤ 57 := by
    simpa [Char.isDigit, UInt32.le_iff_toNat_le] using h
  simp only [isControl, Bool.or_eq_false_iff, Bool.and_eq_false_iff, decide_eq_false_iff_not]
  omega

theorem mem_shownByte {m : Mode} {b : UInt8} (h : c ∈ shownByte m b) : c = '\n' ∨ c = '\ufffd' := by
  unfold shownByte at h
  split_ifs at h <;> simp at h <;> simp [h]

theorem mem_stripBytes {m : Mode} {bytes : Bytes} (h : c ∈ (stripBytes m bytes).1) :
    c = '\n' ∨ c = '\ufffd' := by
  induction bytes generalizing m with
  | nil => cases h
  | cons b bytes ih => exact (List.mem_append.mp h).elim mem_shownByte ih

/-- Whatever is left of a text is shown. -/
theorem isShown_of_mem_stripFrom {m : Mode} (h : c ∈ stripFrom m text) : isShown c = true := by
  induction text generalizing m with
  | nil => cases h
  | cons d text ih =>
    rw [stripFrom] at h
    split_ifs at h with hground hescape hshown
    · exact ih h
    · rcases List.mem_cons.mp h with rfl | h
      · exact hshown
      · exact ih h
    · exact ih h
    · rcases List.mem_append.mp h with hbytes | h
      · rcases mem_stripBytes hbytes with rfl | rfl <;> decide
      · exact ih h

/-! ## 2. Texts without escape characters -/

theorem strip_append (h : '\x1b' ∉ text) (rest : List Char) :
    strip (text ++ rest) = text.filter isShown ++ strip rest := by
  induction text with
  | nil => rfl
  | cons c text ih =>
    obtain ⟨hc, htext⟩ := not_or.mp (mt List.mem_cons.mpr h)
    have ih := ih htext
    unfold strip at ih ⊢
    rw [List.cons_append, stripFrom, if_pos rfl, if_neg (Ne.symm hc), List.filter_cons, ih]
    split <;> rfl

theorem strip_eq_filter (h : '\x1b' ∉ text) : strip text = text.filter isShown := by
  have happend := strip_append h []
  rwa [List.append_nil, show strip [] = [] from rfl, List.append_nil] at happend

/-- A text loses nothing exactly if all of it is shown. -/
theorem strip_eq_self_iff : strip text = text ↔ ∀ c ∈ text, isShown c = true := by
  constructor
  · intro h c hc
    rw [← h] at hc
    exact isShown_of_mem_stripFrom hc
  · intro h
    have hescape : '\x1b' ∉ text := fun hmem => absurd (h _ hmem) (by decide)
    rw [strip_eq_filter hescape, List.filter_eq_self.mpr h]

/-! ## 3. Styles -/

/-- What the parameters of sequences are made of. -/
def numerals : List Char := "0123456789;".toList

theorem stripBytes_numeral {m : Mode} (hm : m = .csiEntry ∨ m = .csiParam) {c : Char}
    (hc : c ∈ numerals) : stripBytes m (String.utf8EncodeChar c) = ([], .csiParam) := by
  have hentry : numerals.all fun c =>
      stripBytes .csiEntry (String.utf8EncodeChar c) = ([], .csiParam) := by decide +kernel
  have hparam : numerals.all fun c =>
      stripBytes .csiParam (String.utf8EncodeChar c) = ([], .csiParam) := by decide +kernel
  rcases hm with rfl | rfl
  · simpa using List.all_eq_true.mp hentry c hc
  · simpa using List.all_eq_true.mp hparam c hc

/-- A control sequence ends with its letter. -/
theorem stripFrom_parameter {m : Mode} (hm : m = .csiEntry ∨ m = .csiParam) {parameter : List Char}
    (h : ∀ c ∈ parameter, c ∈ numerals) (rest : List Char) :
    stripFrom m (parameter ++ 'm' :: rest) = strip rest := by
  have hne : m ≠ .ground := by rcases hm with rfl | rfl <;> exact Mode.noConfusion
  induction parameter generalizing m with
  | nil =>
    have hend : stripBytes m (String.utf8EncodeChar 'm') = ([], .ground) := by
      rcases hm with rfl | rfl <;> decide
    rw [List.nil_append, stripFrom, if_neg hne, hend]
    rfl
  | cons c parameter ih =>
    obtain ⟨hc, hparameter⟩ := List.forall_mem_cons.mp h
    rw [List.cons_append, stripFrom, if_neg hne, stripBytes_numeral hm hc]
    exact ih (.inr rfl) hparameter (by decide)

namespace Style

/-- The parameters of a style are made of numerals. -/
def IsNumeric (s : Style) : Prop := ∀ parameter ∈ s, ∀ c ∈ parameter.toList, c ∈ numerals

instance (s : Style) : Decidable s.IsNumeric :=
  decidable_of_iff (s.all fun parameter => parameter.toList.all numerals.contains)
    (by simp [IsNumeric])

theorem strip_sequence_append {parameter : String} (h : ∀ c ∈ parameter.toList, c ∈ numerals)
    (rest : List Char) : strip (sequence parameter ++ rest) = strip rest := by
  have hopen : stripBytes .escape (String.utf8EncodeChar '[') = ([], .csiEntry) := by decide
  have hsequence : sequence parameter ++ rest = '\x1b' :: '[' :: (parameter.toList ++ 'm' :: rest) := by
    simp [sequence]
  rw [hsequence, strip, stripFrom, if_pos rfl, if_pos rfl, stripFrom, if_neg Mode.noConfusion, hopen]
  exact stripFrom_parameter (.inl rfl) h rest

theorem strip_sequences_append {s : Style} (h : s.IsNumeric) (rest : List Char) :
    strip (s.flatMap sequence ++ rest) = strip rest := by
  induction s with
  | nil => rfl
  | cons parameter s ih =>
    obtain ⟨hparameter, hs⟩ := List.forall_mem_cons.mp h
    rw [List.flatMap_cons, List.append_assoc, strip_sequence_append hparameter, ih hs]

/-- In any style or without one, the same is left of a text. -/
theorem strip_apply_append {s : Style} (h : s.IsNumeric) {text : List Char}
    (htext : '\x1b' ∉ text) (colour : Bool) (rest : List Char) :
    strip (s.apply colour text ++ rest) = text.filter isShown ++ strip rest := by
  cases colour with
  | false => exact strip_append htext rest
  | true =>
    have hreset : ∀ c ∈ "0".toList, c ∈ numerals := List.forall_mem_singleton.mpr (by decide)
    rw [apply, if_pos rfl, List.append_assoc, List.append_assoc, strip_sequences_append h,
      strip_append htext, strip_sequence_append hreset]

end Style

end SecretScan.Terminal
