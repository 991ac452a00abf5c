import SecretScan.Number.Rounding
import SecretScan.Proofs.Json.Writer

/-!
# Errors of rounding

A ratio is rounded to an integer with an error of at most one half, and to a binary number with a
relative error of at most one part in 2 ^ 53.
-/

namespace SecretScan.Ratio

/-! ## 1. Values -/

/-- The rational number that a ratio stands for. -/
def value (r : Ratio) : ℚ := r.num / r.den

theorem value_nonneg (r : Ratio) : 0 ≤ r.value := by
  unfold value
  positivity

theorem value_ofNat (n : Nat) : (ofNat n).value = n := by
  simp [value, ofNat]

theorem value_add {a b : Ratio} (ha : 0 < a.den) (hb : 0 < b.den) :
    (a.add b).value = a.value + b.value := by
  have ha' : (a.den : ℚ) ≠ 0 := by positivity
  have hb' : (b.den : ℚ) ≠ 0 := by positivity
  simp only [value, add]
  push_cast
  field_simp

theorem value_div (r : Ratio) (size : Nat) :
    value ⟨r.num, r.den * size⟩ = r.value / size := by
  unfold value
  push_cast
  rw [div_div]

theorem scale_den_pos {r : Ratio} (h : 0 < r.den) (exponent : Int) : 0 < (r.scale exponent).den := by
  unfold scale
  split
  · exact h
  · show 0 < r.den <<< _
    rw [Nat.shiftLeft_eq]
    positivity

theorem value_scale (r : Ratio) (exponent : Int) :
    (r.scale exponent).value = r.value * 2 ^ exponent := by
  unfold scale value
  -- a shift of the numerator multiplies, and one of the denominator divides
  split
  next h =>
    obtain ⟨n, rfl⟩ := Int.eq_ofNat_of_zero_le h
    simp only [Int.toNat_natCast, Nat.shiftLeft_eq, zpow_natCast]
    push_cast
    ring
  next h =>
    obtain ⟨n, hn⟩ := Int.eq_ofNat_of_zero_le (show 0 ≤ -exponent by omega)
    obtain rfl : exponent = -(n : Int) := by omega
    simp only [neg_neg, Int.toNat_natCast, Nat.shiftLeft_eq, zpow_neg, zpow_natCast]
    push_cast
    rw [div_mul_eq_div_div, div_eq_mul_inv]

/-! ## 2. Integers -/

theorem round_bounds {r : Ratio} (h : 0 < r.den) :
    2 * (r.round * r.den) ≤ 2 * r.num + r.den ∧ 2 * r.num ≤ 2 * (r.round * r.den) + r.den := by
  have hdivision := Nat.div_add_mod r.num r.den
  have hrest := Nat.mod_lt r.num h
  have hcomm : r.den * (r.num / r.den) = r.num / r.den * r.den := Nat.mul_comm _ _
  have hnext : (r.num / r.den + 1) * r.den = r.num / r.den * r.den + r.den := by ring
  unfold round
  dsimp only
  split_ifs <;> omega

/-- The nearest integer is at most one half away. -/
theorem abs_round_sub {r : Ratio} (h : 0 < r.den) : |(r.round : ℚ) - r.value| ≤ 1 / 2 := by
  have hbounds := round_bounds h
  have hlow : (2 : ℚ) * (r.round * r.den) ≤ 2 * r.num + r.den := by exact_mod_cast hbounds.1
  have hhigh : (2 : ℚ) * r.num ≤ 2 * (r.round * r.den) + r.den := by exact_mod_cast hbounds.2
  have hden : (0 : ℚ) < r.den := by exact_mod_cast h
  have hvalue : r.value * r.den = r.num := div_mul_cancel₀ _ hden.ne'
  rw [abs_le]
  constructor
  · by_contra hlt
    nlinarith
  · by_contra hlt
    nlinarith

/-! ## 3. Binary numbers -/

/-- A ratio is at least the power of two that the lengths of its numerator and denominator tell. -/
theorem two_zpow_le_value {r : Ratio} (hnum : r.num ≠ 0) (hden : 0 < r.den) :
    (2 : ℚ) ^ ((r.num.log2 : ℤ) - r.den.log2 - 1) ≤ r.value := by
  have hlow : (2 : ℚ) ^ r.num.log2 ≤ r.num := by exact_mod_cast Nat.log2_self_le hnum
  have hhigh : (r.den : ℚ) ≤ 2 ^ (r.den.log2 + 1) := by
    exact_mod_cast (Nat.lt_log2_self (n := r.den)).le
  have hpositive : (0 : ℚ) < r.den := by exact_mod_cast hden
  calc
    (2 : ℚ) ^ ((r.num.log2 : ℤ) - r.den.log2 - 1)
      = 2 ^ r.num.log2 / 2 ^ (r.den.log2 + 1) := by
        rw [sub_sub, zpow_sub₀ two_ne_zero, zpow_natCast]
        norm_cast
    _ ≤ r.value := div_le_div₀ (Nat.cast_nonneg _) hlow hpositive hhigh

/-- The integer part of a scaled ratio has as many bits as a binary number. -/
theorem le_value_scale_shift {r : Ratio} (hnum : r.num ≠ 0) (hden : 0 < r.den) :
    (2 : ℚ) ^ 52 ≤ (r.scale r.shift).value := by
  unfold shift precision
  extract_lets first scaled
  split_ifs with hshort
  · -- one bit is missing, and no more than one
    have hfirst : first = (51 : ℤ) - ((r.num.log2 : ℤ) - r.den.log2 - 1) := by
      show ((53 : ℕ) : ℤ) - 1 - r.num.log2 + r.den.log2 = _
      push_cast
      ring
    have hone : (2 : ℚ) ^ 51 ≤ r.value * 2 ^ first := by
      rw [hfirst, zpow_sub₀ two_ne_zero, mul_div_assoc']
      rw [le_div_iff₀ (by positivity), mul_comm]
      exact mul_le_mul_of_nonneg_right (two_zpow_le_value hnum hden) (by positivity)
    rw [value_scale, zpow_add_one₀ two_ne_zero]
    linarith
  · have hscaled : 0 < scaled.den := scale_den_pos hden first
    have hlow : scaled.den * 2 ^ 52 ≤ scaled.num := by
      rw [Nat.shiftLeft_eq] at hshort
      exact not_lt.mp hshort
    show (2 : ℚ) ^ 52 ≤ scaled.num / scaled.den
    rw [le_div_iff₀ (by exact_mod_cast hscaled), mul_comm]
    exact_mod_cast hlow

/-- The nearest binary number is at most one part in 2 ^ 53 away. -/
theorem abs_toBinary_sub {r : Ratio} (h : 0 < r.den) :
    |r.toBinary.value - r.value| ≤ r.value / 2 ^ 53 := by
  unfold toBinary
  split_ifs with hzero
  · rw [sub_self, abs_zero]
    exact div_nonneg r.value_nonneg (by positivity)
  · have hround := abs_round_sub (scale_den_pos h r.shift)
    have hlarge := le_value_scale_shift hzero h
    rw [value_scale] at hround hlarge
    -- both numbers are scaled in the same way
    have hback : r.value = r.value * 2 ^ r.shift * 2 ^ (-r.shift) := by
      rw [mul_assoc, ← zpow_add₀ two_ne_zero, add_neg_cancel, zpow_zero, mul_one]
    have hpositive : (0 : ℚ) < 2 ^ (-r.shift) := by positivity
    rw [value_scale, value_ofNat, hback, ← sub_mul, abs_mul, abs_of_pos hpositive,
      mul_div_right_comm]
    apply mul_le_mul_of_nonneg_right _ (by positivity)
    linarith

/-- Two such roundings, one after the other. -/
theorem abs_sub_le_of_twice {a b c : ℚ} (hc : 0 ≤ c) (hab : |a - b| ≤ b / 2 ^ 53)
    (hbc : |b - c| ≤ c / 2 ^ 53) : |a - c| ≤ c / 2 ^ 51 := by
  have hb : b - c ≤ c / 2 ^ 53 := (abs_le.mp hbc).2
  have htriangle := abs_sub_le a b c
  linarith

theorem toBinary_den_pos {r : Ratio} (h : 0 < r.den) : 0 < r.toBinary.den := by
  unfold toBinary
  split_ifs
  · exact h
  · exact scale_den_pos Nat.one_pos _

/-! ## 4. Decimal places -/

/-- How many units of the last place a ratio has when it is rounded to some places. -/
def fixed (places : Nat) (r : Ratio) : Nat := round ⟨r.num * 10 ^ places, r.den⟩

theorem abs_fixed_sub {r : Ratio} (places : Nat) (h : 0 < r.den) :
    |(r.fixed places : ℚ) - r.value * 10 ^ places| ≤ 1 / 2 := by
  have hvalue : r.value * 10 ^ places = value ⟨r.num * 10 ^ places, r.den⟩ := by
    unfold value
    push_cast
    ring
  rw [hvalue]
  exact abs_round_sub h

/-- The digits of a number behind the decimal point, with zeros before them. -/
def placeDigits (places n : Nat) : List Char :=
  List.replicate (places - (Nat.toDigits 10 n).length) '0' ++ Nat.toDigits 10 n

theorem length_placeDigits {places n : Nat} (hplaces : 0 < places) (hn : n < 10 ^ places) :
    (placeDigits places n).length = places := by
  have hlength := Nat.toDigits_length 10 n places hplaces hn
  rw [placeDigits, List.length_append, List.length_replicate]
  omega

theorem ofDigitChars_placeDigits (places n : Nat) :
    Nat.ofDigitChars 10 (placeDigits places n) 0 = n := by
  rw [placeDigits, Nat.ofDigitChars_append, Nat.ofDigitChars_replicate_zero, Nat.mul_zero,
    Nat.ofDigitChars_ten_toDigits]

theorem isDigit_of_mem_placeDigits {places n : Nat} : ∀ d ∈ placeDigits places n, d.isDigit := by
  intro d hd
  cases List.mem_append.mp hd with
  | inl hzero =>
    rw [List.eq_of_mem_replicate hzero]
    rfl
  | inr hdigit => exact Nat.isDigit_of_mem_toDigits (by decide) (by decide) hdigit

theorem toList_toFixed (places : Nat) (r : Ratio) :
    (r.toFixed places).toList = Nat.toDigits 10 (r.fixed places / 10 ^ places) ++
      '.' :: placeDigits places (r.fixed places % 10 ^ places) := by
  show (toString (r.fixed places / 10 ^ places) ++ "." ++
    String.ofList (placeDigits places (r.fixed places % 10 ^ places))).toList = _
  have hwhole : (toString (r.fixed places / 10 ^ places)).toList =
    Nat.toDigits 10 (r.fixed places / 10 ^ places) := Nat.toList_repr
  have hpoint : ".".toList = ['.'] := rfl
  rw [String.toList_append, String.toList_append, hwhole, hpoint, List.append_assoc,
    String.toList_ofList, List.singleton_append]

/-- A text with decimal places spells a number of units of the last place. -/
theorem number_toFixed {places : Nat} (hplaces : 0 < places) (r : Ratio) (rest : List Char) :
    Json.Number ((r.toFixed places).toList ++ rest) ⟨r.fixed places, -places⟩ rest := by
  have hlength := length_placeDigits hplaces
    (Nat.mod_lt (r.fixed places) (by positivity : 0 < 10 ^ places))
  -- the digits before the point count the whole units
  have hmantissa : Nat.ofDigitChars 10 (Nat.toDigits 10 (r.fixed places / 10 ^ places) ++
      placeDigits places (r.fixed places % 10 ^ places)) 0 = r.fixed places := by
    rw [Nat.ofDigitChars_append, Nat.ofDigitChars_ten_toDigits,
      Nat.ofDigitChars_eq_ofDigitChars_zero, hlength, ofDigitChars_placeDigits]
    exact Nat.div_add_mod _ _
  have hvalue : Json.Decimal.ofParts false (Nat.toDigits 10 (r.fixed places / 10 ^ places))
      (placeDigits places (r.fixed places % 10 ^ places)) 0 = ⟨r.fixed places, -places⟩ := by
    simp [Json.Decimal.ofParts, Json.signed, hmantissa, hlength]
  have hfraction : Json.Digits (placeDigits places (r.fixed places % 10 ^ places) ++ rest)
      (placeDigits places (r.fixed places % 10 ^ places)) rest := by
    refine ⟨rfl, ?_, isDigit_of_mem_placeDigits⟩
    apply List.ne_nil_of_length_pos
    omega
  rw [toList_toFixed, List.append_assoc, ← hvalue]
  exact .mk (.absent _) (Json.whole_toDigits _ _) (.present hfraction) (.absent _)

end SecretScan.Ratio
