import Mathlib
import SecretScan.Text.Lowercase

/-!
# The small form of the end of a text

All letters but the capital sigma are mapped on their own.  So the end of a text has the same small
form there as alone, unless the text is cut within a word in front of the sigma that ends the word
(`Lowercase.ofChars_suffix_iff`).
-/

namespace SecretScan.Lowercase

/-! ## 1. Letters of both cases -/

/-- A small letter of ASCII shares with its capital what the small form of a text depends on. -/
theorem toLower_shares (c : Char) :
    Property.holds "caseignorable" c.toLower = Property.holds "caseignorable" c ∧
      Property.holds "cased" c.toLower = Property.holds "cased" c ∧
      ofChar c.toLower = ofChar c ∧ (c.toLower = 'Σ' ↔ c = 'Σ') := by
  by_cases hc : c.val ≥ 'A'.val ∧ c.val ≤ 'Z'.val
  · -- the capitals are few, and every other character is its own small letter
    have hcapitals : ∀ n ∈ List.range' 65 26,
        let c := Char.ofNat n
        Property.holds "caseignorable" c.toLower = Property.holds "caseignorable" c ∧
          Property.holds "cased" c.toLower = Property.holds "cased" c ∧
          ofChar c.toLower = ofChar c ∧ (c.toLower = 'Σ' ↔ c = 'Σ') := by decide +kernel
    have hlo : 65 ≤ c.toNat := hc.1
    have hhi : c.toNat ≤ 90 := hc.2
    have hcapital := hcapitals c.toNat (List.mem_range'_1.mpr ⟨hlo, by omega⟩)
    rwa [Char.ofNat_toNat] at hcapital
  · have hsame : c.toLower = c := dif_neg hc
    rw [hsame]
    exact ⟨rfl, rfl, rfl, Iff.rfl⟩

@[simp] theorem holds_ignorable_toLower (c : Char) :
    Property.holds "caseignorable" c.toLower = Property.holds "caseignorable" c :=
  (toLower_shares c).1

@[simp] theorem holds_cased_toLower (c : Char) :
    Property.holds "cased" c.toLower = Property.holds "cased" c :=
  (toLower_shares c).2.1

@[simp] theorem ofChar_toLower (c : Char) : ofChar c.toLower = ofChar c :=
  (toLower_shares c).2.2.1

@[simp] theorem toLower_eq_sigma_iff {c : Char} : c.toLower = 'Σ' ↔ c = 'Σ' :=
  (toLower_shares c).2.2.2

theorem ignorable_sigma : Property.holds "caseignorable" 'Σ' = false := by decide +kernel

/-! ## 2. What the form of a sigma depends on -/

theorem meetsCased_cons (c : Char) (cs : List Char) : meetsCased (c :: cs) =
    if Property.holds "caseignorable" c then meetsCased cs else Property.holds "cased" c := by
  unfold meetsCased
  by_cases hignored : Property.holds "caseignorable" c = true
  · rw [List.dropWhile_cons_of_pos hignored, if_pos hignored]
  · rw [List.dropWhile_cons_of_neg hignored, if_neg hignored]

/-- Whether the first letter of a text, apart from characters that case ignores, is a capital sigma
that ends a word if the word begins before the text. -/
def opensWithSigma (cs : List Char) : Bool :=
  match cs.dropWhile (Property.holds "caseignorable" ·) with
  | c :: rest => c == 'Σ' && !meetsCased rest
  | [] => false

theorem opensWithSigma_cons (c : Char) (cs : List Char) : opensWithSigma (c :: cs) =
    if Property.holds "caseignorable" c then opensWithSigma cs
    else c == 'Σ' && !meetsCased cs := by
  unfold opensWithSigma
  by_cases hignored : Property.holds "caseignorable" c = true
  · rw [List.dropWhile_cons_of_pos hignored, if_pos hignored]
  · rw [List.dropWhile_cons_of_neg hignored, if_neg hignored]

theorem meetsCased_map_toLower (cs : List Char) :
    meetsCased (cs.map Char.toLower) = meetsCased cs := by
  induction cs with
  | nil => rfl
  | cons c cs ih =>
    rw [List.map_cons, meetsCased_cons, meetsCased_cons, ih, holds_ignorable_toLower,
      holds_cased_toLower]

theorem opensWithSigma_map_toLower (cs : List Char) :
    opensWithSigma (cs.map Char.toLower) = opensWithSigma cs := by
  induction cs with
  | nil => rfl
  | cons c cs ih =>
    have hsigma : (c.toLower == 'Σ') = (c == 'Σ') := by
      rw [Bool.eq_iff_iff, beq_iff_eq, beq_iff_eq, toLower_eq_sigma_iff]
    rw [List.map_cons, opensWithSigma_cons, opensWithSigma_cons, ih, meetsCased_map_toLower,
      holds_ignorable_toLower, hsigma]

/-! ## 3. The small form of a text after another one -/

theorem after_map_toLower (before cs : List Char) :
    after (before.map Char.toLower) (cs.map Char.toLower) = after before cs := by
  induction cs generalizing before with
  | nil => rfl
  | cons c cs ih =>
    rw [List.map_cons, after, after, ← List.map_cons (f := Char.toLower), ih, sigma, sigma,
      meetsCased_map_toLower, meetsCased_map_toLower, ofChar_toLower]
    simp only [toLower_eq_sigma_iff]

theorem length_after (before before' cs : List Char) :
    (after before cs).length = (after before' cs).length := by
  induction cs generalizing before before' with
  | nil => rfl
  | cons c cs ih =>
    rw [after, after, List.length_append, List.length_append, ih (c :: before) (c :: before')]
    split <;> rfl

theorem exists_after_append (before front back : List Char) :
    ∃ first, after before (front ++ back) = first ++ after (front.reverse ++ before) back := by
  induction front generalizing before with
  | nil => exact ⟨[], rfl⟩
  | cons c front ih =>
    obtain ⟨first, hfirst⟩ := ih (c :: before)
    rw [List.cons_append, after, hfirst, List.reverse_cons, List.append_assoc,
      List.singleton_append, ← List.append_assoc]
    exact ⟨_, rfl⟩

/-- What comes before counts only as far as a word begins there. -/
theorem after_congr {before before' : List Char} (h : meetsCased before = meetsCased before')
    (cs : List Char) : after before cs = after before' cs := by
  induction cs generalizing before before' with
  | nil => rfl
  | cons c cs ih =>
    have hnext : meetsCased (c :: before) = meetsCased (c :: before') := by
      rw [meetsCased_cons, meetsCased_cons, h]
    rw [after, after, ih hnext, sigma, sigma, h]

/-- Whether a word begins before a text can be seen in its small form only if the text opens with a
sigma. -/
theorem after_eq_iff {before before' : List Char} (h : meetsCased before = true)
    (h' : meetsCased before' = false) (cs : List Char) :
    after before cs = after before' cs ↔ opensWithSigma cs = false := by
  induction cs generalizing before before' with
  | nil => exact iff_of_true rfl rfl
  | cons c cs ih =>
    rw [after, after, opensWithSigma_cons]
    by_cases hignored : Property.holds "caseignorable" c = true
    · -- the character is no sigma and is passed over
      have hne : c ≠ 'Σ' := by
        rintro rfl
        rw [ignorable_sigma] at hignored
        cases hignored
      rw [if_neg hne, if_neg hne, if_pos hignored, List.append_cancel_left_eq]
      apply ih
      · rw [meetsCased_cons, if_pos hignored, h]
      · rw [meetsCased_cons, if_pos hignored, h']
    · -- nothing before the character can be seen after it
      have hnext : meetsCased (c :: before) = meetsCased (c :: before') := by
        rw [meetsCased_cons, meetsCased_cons, if_neg hignored, if_neg hignored]
      rw [after_congr hnext, if_neg hignored, List.append_cancel_right_eq]
      by_cases hc : c = 'Σ'
      · rw [if_pos hc, if_pos hc, sigma, sigma, h, h', hc]
        cases meetsCased cs <;> decide
      · simp [hc]

/-- A text is cut within a word in front of a sigma that ends the word. -/
def CutsWord (front part : List Char) : Prop :=
  meetsCased front.reverse = true ∧ opensWithSigma part = true

instance (front part : List Char) : Decidable (CutsWord front part) :=
  inferInstanceAs (Decidable (_ ∧ _))

/-- A part that ends a text, up to the case of ASCII letters, ends it in small form too, unless the
text is cut there within a word in front of a final sigma. -/
theorem ofChars_suffix_iff {front back part : List Char}
    (h : back.map Char.toLower = part.map Char.toLower) :
    ofChars part <:+ ofChars (front ++ back) ↔ ¬ CutsWord front part := by
  have hpart : ofChars part = after [] back := by
    rw [ofChars, ← after_map_toLower [] part, ← after_map_toLower [] back, h]
  have hopens : opensWithSigma part = opensWithSigma back := by
    rw [← opensWithSigma_map_toLower part, ← opensWithSigma_map_toLower back, h]
  obtain ⟨first, hfirst⟩ := exists_after_append [] front back
  rw [List.append_nil] at hfirst
  -- both ends are of the same length
  have hsuffix : ofChars part <:+ ofChars (front ++ back) ↔
      after front.reverse back = after [] back := by
    rw [hpart, ofChars, hfirst]
    constructor
    · intro hsuffix
      have hlength := length_after [] front.reverse back
      have hend := List.suffix_of_suffix_length_le hsuffix
        (List.suffix_append first (after front.reverse back)) hlength.le
      exact (hend.eq_of_length hlength).symm
    · intro heq
      rw [heq]
      exact List.suffix_append first _
  rw [hsuffix, CutsWord, hopens]
  cases hmeets : meetsCased front.reverse with
  | false => exact iff_of_true (after_congr hmeets back) (by simp)
  | true =>
    rw [after_eq_iff hmeets rfl]
    simp

end SecretScan.Lowercase
