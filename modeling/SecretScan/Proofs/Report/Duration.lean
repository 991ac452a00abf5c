import SecretScan.Report.Duration
import SecretScan.Proofs.Number.Rounding

/-!
# What the text of a duration says

The text of a duration is a number and a unit (`Duration.read?_text`).  The number is the nearest one
with the decimal places that are shown, although it is computed with binary numbers, and it is at least
one.  It is less than a thousand unless the duration comes so close to the next unit that rounding
fills it up (`Duration.shown_in_unit`).
-/

namespace SecretScan

/-! ## 1. Units -/

/-- The units in which durations are shown. -/
inductive TimeUnit where
  | nanosecond
  | microsecond
  | millisecond
  | second
  deriving DecidableEq, Repr

namespace TimeUnit

/-- The nanoseconds of a unit. -/
def nanos : TimeUnit → Nat
  | nanosecond => 1
  | microsecond => Duration.microsecond
  | millisecond => Duration.millisecond
  | second => Duration.second

def symbol : TimeUnit → String
  | nanosecond => "ns"
  | microsecond => "µs"
  | millisecond => "ms"
  | second => "s"

/-- The unit with a symbol. -/
def ofSymbol? (s : String) : Option TimeUnit :=
  [nanosecond, microsecond, millisecond, second].find? fun unit => unit.symbol = s

theorem ofSymbol?_symbol (unit : TimeUnit) : ofSymbol? unit.symbol = some unit := by
  cases unit <;> decide

/-- A number before the symbol of a unit ends there. -/
theorem endsNumber_symbol (unit : TimeUnit) : Json.EndsNumber unit.symbol.toList := by
  intro c hc
  cases unit <;> cases hc <;> decide

end TimeUnit

namespace Duration

/-! ## 2. Reading a duration -/

/-- The number and the unit that a text shows. -/
def read? (s : String) : Option (Json.Decimal × TimeUnit) := do
  let (number, rest) ← Json.readNumber s.toList
  let unit ← TimeUnit.ofSymbol? (String.ofList rest)
  return (number, unit)

theorem read?_append {number : String} {n : Json.Decimal} (unit : TimeUnit)
    (h : Json.Number (number.toList ++ unit.symbol.toList) n unit.symbol.toList) :
    read? (number ++ unit.symbol) = some (n, unit) := by
  unfold read?
  rw [String.toList_append, h.read_eq unit.endsNumber_symbol]
  show (TimeUnit.ofSymbol? (String.ofList unit.symbol.toList) >>= _) = _
  rw [String.ofList_toList, unit.ofSymbol?_symbol]
  rfl

/-- The unit in which a duration is shown. -/
def unit (d : Duration) : TimeUnit :=
  if d.nanos < microsecond then .nanosecond
  else if d.nanos < millisecond then .microsecond
  else if d.nanos < second then .millisecond
  else .second

/-- The number of units that is shown. -/
def number (d : Duration) : Json.Decimal :=
  match d.unit with
  | .nanosecond => ⟨d.nanos, 0⟩
  | .microsecond => ⟨(d.quotient microsecond).fixed 1, -1⟩
  | .millisecond => ⟨(d.quotient millisecond).fixed 1, -1⟩
  | .second => ⟨d.seconds.fixed 2, -2⟩

theorem read?_text (d : Duration) : read? d.text = some (d.number, d.unit) := by
  unfold text number unit
  split_ifs
  · exact read?_append .nanosecond (Json.number_repr d.nanos _)
  · exact read?_append .microsecond (Ratio.number_toFixed Nat.one_pos _ _)
  · exact read?_append .millisecond (Ratio.number_toFixed Nat.one_pos _ _)
  · exact read?_append .second (Ratio.number_toFixed Nat.two_pos _ _)

/-! ## 3. Tenths of a unit -/

theorem quotient_den_pos (d : Duration) {size : Nat} (hsize : 0 < size) :
    0 < (d.quotient size).den := by
  apply Ratio.toBinary_den_pos
  exact Nat.mul_pos (Ratio.toBinary_den_pos Nat.one_pos) hsize

/-- The quotient is rounded to a binary number twice, which takes it hardly away from what it stands
for. -/
theorem abs_quotient_sub (d : Duration) {size : Nat} (hsize : 0 < size) :
    |(d.quotient size).value - d.nanos / size| ≤ d.nanos / size / 2 ^ 51 := by
  let n := (Ratio.ofNat d.nanos).toBinary
  have hn : |n.value - d.nanos| ≤ d.nanos / 2 ^ 53 := by
    have h := Ratio.abs_toBinary_sub (r := Ratio.ofNat d.nanos) Nat.one_pos
    rwa [Ratio.value_ofNat] at h
  have hden : 0 < n.den := Ratio.toBinary_den_pos Nat.one_pos
  have hquotient : |(d.quotient size).value - n.value / size| ≤ n.value / size / 2 ^ 53 := by
    rw [← Ratio.value_div]
    exact Ratio.abs_toBinary_sub (Nat.mul_pos hden hsize)
  apply Ratio.abs_sub_le_of_twice (by positivity) hquotient
  have hsize' : (0 : ℚ) < size := by exact_mod_cast hsize
  rw [← sub_div, abs_div, abs_of_pos hsize', div_right_comm]
  exact div_le_div_of_nonneg_right hn hsize'.le

/-- Tenths of a unit of `20 * half` nanoseconds that are at most half a tenth from a duration. -/
structure Nearest (half nanos tenths : Nat) : Prop where
  low : tenths * (2 * half) ≤ nanos + half
  high : nanos ≤ tenths * (2 * half) + half

/-- The tenths that are shown are the nearest ones to the duration itself, as the quotient is much
closer to it than a nanosecond. -/
theorem nearest_tenths {d : Duration} (hd : d.nanos < second) {half : Nat} (hhalf : 0 < half) :
    Nearest half d.nanos ((d.quotient (20 * half)).fixed 1) := by
  have hsize : 0 < 20 * half := by omega
  have hfixed := Ratio.abs_fixed_sub 1 (d.quotient_den_pos hsize)
  have hquotient := d.abs_quotient_sub hsize
  have hhalf' : (0 : ℚ) < half := by exact_mod_cast hhalf
  have hnanos : (d.nanos : ℚ) / (20 * half : ℕ) * (20 * half) = d.nanos := by
    push_cast
    exact div_mul_cancel₀ _ (by positivity)
  have hsmall : (d.nanos : ℚ) / 2 ^ 51 < 1 := by
    have hlt : (d.nanos : ℚ) < second := by exact_mod_cast hd
    rw [div_lt_one (by positivity)]
    exact hlt.trans (by norm_num [second])
  generalize (d.quotient (20 * half)).fixed 1 = tenths at *
  generalize (d.quotient (20 * half)).value = q at *
  generalize (d.nanos : ℚ) / (20 * half : ℕ) = units at *
  have herror : |(tenths : ℚ) * (2 * half) - d.nanos| < half + 1 := by
    calc
      |(tenths : ℚ) * (2 * half) - d.nanos|
        = |(tenths - q * 10 ^ 1) * (2 * half) + (q - units) * (20 * half)| := by
          rw [← hnanos]
          ring_nf
      _ ≤ |(tenths : ℚ) - q * 10 ^ 1| * (2 * half) + |q - units| * (20 * half) := by
          have htenth : |(2 * half : ℚ)| = 2 * half := abs_of_pos (by positivity)
          have hunit : |(20 * half : ℚ)| = 20 * half := abs_of_pos (by positivity)
          apply (abs_add_le _ _).trans
          rw [abs_mul _ (2 * half : ℚ), abs_mul _ (20 * half : ℚ), htenth, hunit]
      _ ≤ 1 / 2 * (2 * half) + units / 2 ^ 51 * (20 * half) := by gcongr
      _ = half + d.nanos / 2 ^ 51 := by
          rw [← hnanos]
          ring
      _ < half + 1 := by linarith
  -- both sides are integers, so what is added to a half is less than one and counts for nothing
  have hbounds := abs_lt.mp herror
  constructor
  · have hlow : (tenths : ℚ) * (2 * half) < d.nanos + half + 1 := by linarith
    have hlow : tenths * (2 * half) < d.nanos + half + 1 := by exact_mod_cast hlow
    omega
  · have hhigh : (d.nanos : ℚ) < tenths * (2 * half) + half + 1 := by linarith
    have hhigh : d.nanos < tenths * (2 * half) + half + 1 := by exact_mod_cast hhigh
    omega

theorem value_tenths (tenths : Nat) : Json.Decimal.value ⟨tenths, -1⟩ = tenths / 10 := by
  simp [Json.Decimal.value, div_eq_mul_inv]

namespace Nearest

variable {half nanos tenths : Nat}

theorem abs_sub_le (h : Nearest half nanos tenths) (hhalf : 0 < half) :
    |(Json.Decimal.value ⟨tenths, -1⟩ : ℚ) - nanos / (20 * half : ℕ)| ≤ 10 ^ (-1 : ℤ) / 2 := by
  have hlow : (tenths : ℚ) * (2 * half) ≤ nanos + half := by exact_mod_cast h.low
  have hhigh : (nanos : ℚ) ≤ tenths * (2 * half) + half := by exact_mod_cast h.high
  -- both bounds are at most half a tenth away
  have hbound : |(tenths : ℚ) * (2 * half) - nanos| ≤ half := by
    rw [abs_le]
    constructor <;> linarith
  have hunit : (0 : ℚ) < 20 * half := by exact_mod_cast Nat.mul_pos (by decide) hhalf
  have hvalue : (tenths : ℚ) / 10 - nanos / (20 * half : ℕ) =
      (tenths * (2 * half) - nanos) / (20 * half) := by
    push_cast
    field_simp
    ring
  rw [value_tenths, hvalue, abs_div, abs_of_pos hunit, div_le_iff₀ hunit]
  norm_num
  linarith

theorem one_le (h : Nearest half nanos tenths) (hnanos : 20 * half ≤ nanos) (hhalf : 0 < half) :
    1 ≤ Json.Decimal.value ⟨tenths, -1⟩ := by
  have hten : 10 ≤ tenths := by
    have hhigh := h.high
    by_contra hless
    have hmost : tenths * (2 * half) ≤ 9 * (2 * half) := Nat.mul_le_mul_right _ (by omega)
    omega
  have hten : (10 : ℚ) ≤ tenths := by exact_mod_cast hten
  rw [value_tenths]
  linarith

theorem le_thousand (h : Nearest half nanos tenths) (hnanos : nanos < 20000 * half) :
    Json.Decimal.value ⟨tenths, -1⟩ ≤ 1000 := by
  have hmost : tenths ≤ 10000 := by
    have hlow := h.low
    by_contra hmore
    have hleast : 10001 * (2 * half) ≤ tenths * (2 * half) := Nat.mul_le_mul_right _ (by omega)
    omega
  have hmost : (tenths : ℚ) ≤ 10000 := by exact_mod_cast hmost
  rw [value_tenths]
  linarith

/-- A thousand is reached half a tenth before it, if that half is rounded up. -/
theorem lt_thousand_iff (h : Nearest half nanos tenths)
    (htie : nanos + half = 20000 * half → tenths = 10000) :
    Json.Decimal.value ⟨tenths, -1⟩ < 1000 ↔ nanos + half < 20000 * half := by
  have hlow := h.low
  have hhigh := h.high
  -- a thousand are ten thousand tenths
  have hless : Json.Decimal.value ⟨tenths, -1⟩ < 1000 ↔ tenths < 10000 := by
    rw [value_tenths, div_lt_iff₀ (by norm_num)]
    norm_num
  rw [hless]
  constructor
  · intro hless
    have hmost : tenths * (2 * half) ≤ 9999 * (2 * half) := Nat.mul_le_mul_right _ (by omega)
    by_contra hmore
    have hten := htie (by omega)
    omega
  · intro hnanos
    by_contra hmore
    have hleast : 10000 * (2 * half) ≤ tenths * (2 * half) := Nat.mul_le_mul_right _ (by omega)
    omega

end Nearest

theorem eq_mk {d : Duration} {n : Nat} (h : d.nanos = n) : d = ⟨n⟩ := by
  cases d
  exact congrArg mk h

/-- Half a tenth before a thousand units, the binary quotient is a little greater than what it stands
for, so it is rounded up. -/
theorem fixed_of_tie {d : Duration} {half : Nat} (hhalf : half = 50 ∨ half = 50000)
    (h : d.nanos + half = 20000 * half) : (d.quotient (20 * half)).fixed 1 = 10000 := by
  cases hhalf with
  | inl hmicro =>
    rw [hmicro, eq_mk (show d.nanos = 999950 by omega)]
    decide
  | inr hmilli =>
    rw [hmilli, eq_mk (show d.nanos = 999950000 by omega)]
    decide

/-! ## 4. Seconds -/

theorem second_pos : 0 < second := by decide

theorem seconds_den_pos (d : Duration) : 0 < d.seconds.den := by
  apply Ratio.toBinary_den_pos
  exact Nat.mul_pos (Ratio.toBinary_den_pos Nat.one_pos) (Ratio.toBinary_den_pos second_pos)

/-- The number of seconds is rounded to a binary number three times, but does not lose much. -/
theorem le_value_seconds {d : Duration} (hd : second ≤ d.nanos) : 999 / 1000 ≤ d.seconds.value := by
  let whole := (Ratio.ofNat (d.nanos / second)).toBinary
  let rest := Ratio.toBinary ⟨d.nanos % second, second⟩
  have hone : (1 : ℚ) ≤ (d.nanos / second : ℕ) := by
    exact_mod_cast (Nat.le_div_iff_mul_le second_pos).mpr (by omega)
  -- the whole seconds, the rest and their sum are rounded one after the other
  have hwhole : |whole.value - (d.nanos / second : ℕ)| ≤ (d.nanos / second : ℕ) / 2 ^ 53 := by
    have h := Ratio.abs_toBinary_sub (r := Ratio.ofNat (d.nanos / second)) Nat.one_pos
    rwa [Ratio.value_ofNat] at h
  have hrest : 0 ≤ rest.value := rest.value_nonneg
  have hwholeDen : 0 < whole.den := Ratio.toBinary_den_pos Nat.one_pos
  have hrestDen : 0 < rest.den := Ratio.toBinary_den_pos second_pos
  have hsum : |d.seconds.value - (whole.value + rest.value)| ≤
      (whole.value + rest.value) / 2 ^ 53 := by
    rw [← Ratio.value_add hwholeDen hrestDen]
    exact Ratio.abs_toBinary_sub (Nat.mul_pos hwholeDen hrestDen)
  have hwholeLow := (abs_le.mp hwhole).1
  have hsumLow := (abs_le.mp hsum).1
  linarith

theorem one_le_seconds {d : Duration} (hd : second ≤ d.nanos) :
    1 ≤ Json.Decimal.value ⟨d.seconds.fixed 2, -2⟩ := by
  have hseconds := le_value_seconds hd
  have hfixed := (abs_le.mp (Ratio.abs_fixed_sub 2 d.seconds_den_pos)).1
  have hmore : (99 : ℚ) < d.seconds.fixed 2 := by linarith
  have hhundred : 100 ≤ d.seconds.fixed 2 := by exact_mod_cast hmore
  have hhundred : (100 : ℚ) ≤ d.seconds.fixed 2 := by exact_mod_cast hhundred
  have hvalue : Json.Decimal.value ⟨d.seconds.fixed 2, -2⟩ = d.seconds.fixed 2 / 100 := by
    norm_num [Json.Decimal.value, div_eq_mul_inv]
  rw [hvalue]
  linarith

/-! ## 5. Numbers that are shown -/

/-- A duration lacks at most half a tenth of its unit to the next unit, so that it is rounded up to a
thousand. -/
def FillsUnit (d : Duration) : Prop :=
  d.nanos < millisecond ∧ millisecond ≤ d.nanos + microsecond / 20 ∨
    d.nanos < second ∧ second ≤ d.nanos + millisecond / 20

instance (d : Duration) : Decidable d.FillsUnit :=
  inferInstanceAs (Decidable (_ ∧ _ ∨ _ ∧ _))

/-- A duration of a microsecond or more is shown as at least one unit.  Below a second, the number
that is shown is at most half of its last place away from the duration; it is less than a thousand,
unless it fills the next unit, and then it is a thousand. -/
theorem shown_in_unit (d : Duration) :
    ∃ number unit, read? d.text = some (number, unit) ∧
      (microsecond ≤ d.nanos → 1 ≤ number.value) ∧
      (d.nanos < second →
        number.value ≤ 1000 ∧ (number.value < 1000 ↔ ¬d.FillsUnit) ∧
        |number.value - d.nanos / unit.nanos| ≤ 10 ^ number.exponent / 2) := by
  refine ⟨d.number, d.unit, read?_text d, ?_⟩
  have hmicrosecond : microsecond = 20 * 50 := rfl
  have hmillisecond : millisecond = 20 * 50000 := rfl
  have hsecond : second = 20000 * 50000 := rfl
  unfold number unit FillsUnit
  split_ifs with hnano hmicro hmilli
  · -- nanoseconds are not rounded
    have hvalue : Json.Decimal.value ⟨d.nanos, 0⟩ = d.nanos := by simp [Json.Decimal.value]
    have hless : (d.nanos : ℚ) < 1000 := by exact_mod_cast hnano
    refine ⟨fun hmore => absurd hnano (not_lt.mpr hmore), fun _ => ⟨?_, ?_, ?_⟩⟩
    · rw [hvalue]
      exact hless.le
    · rw [hvalue]
      exact iff_of_true hless (by omega)
    · simp [hvalue, TimeUnit.nanos]
  · have hnearest : Nearest 50 d.nanos ((d.quotient (20 * 50)).fixed 1) :=
      nearest_tenths (by omega) (by decide)
    refine ⟨fun _ => hnearest.one_le (by omega) (by decide), fun _ =>
      ⟨hnearest.le_thousand (by omega), ?_, hnearest.abs_sub_le (by decide)⟩⟩
    apply (hnearest.lt_thousand_iff (fixed_of_tie (.inl rfl))).trans
    omega
  · have hnearest : Nearest 50000 d.nanos ((d.quotient (20 * 50000)).fixed 1) :=
      nearest_tenths hmilli (by decide)
    refine ⟨fun _ => hnearest.one_le (by omega) (by decide), fun _ =>
      ⟨hnearest.le_thousand (by omega), ?_, hnearest.abs_sub_le (by decide)⟩⟩
    apply (hnearest.lt_thousand_iff (fixed_of_tie (.inr rfl))).trans
    omega
  · exact ⟨fun _ => one_le_seconds (not_lt.mp hmilli), fun hless => absurd hless hmilli⟩

/-- The last duration that is shown as less than a thousand microseconds. -/
theorem shown_in_unit_last :
    let d : Duration := ⟨999949⟩
    microsecond ≤ d.nanos ∧ d.nanos < second ∧ ¬d.FillsUnit ∧
    ∃ number unit, read? d.text = some (number, unit) ∧ 1 ≤ number.value ∧
      number.value < 1000 ∧ |number.value - d.nanos / unit.nanos| ≤ 10 ^ number.exponent / 2 := by
  intro d
  have hlow : microsecond ≤ d.nanos := by decide
  have hhigh : d.nanos < second := by decide
  have hfills : ¬d.FillsUnit := by decide
  obtain ⟨number, unit, hread, hone, hbelow⟩ := shown_in_unit d
  obtain ⟨-, hless, hnear⟩ := hbelow hhigh
  exact ⟨hlow, hhigh, hfills, number, unit, hread, hone hlow, hless.mpr hfills, hnear⟩

/-- A nanosecond is missing to a millisecond, and yet microseconds are shown. -/
theorem thousand_shown :
    (⟨999999⟩ : Duration).text = "1000.0µs" ∧
    read? (⟨999999⟩ : Duration).text = some (⟨10000, -1⟩, .microsecond) ∧
    microsecond ≤ 999999 ∧ 999999 < second ∧ ¬Json.Decimal.value ⟨10000, -1⟩ < 1000 := by
  have hnumber : (⟨999999⟩ : Duration).number = ⟨10000, -1⟩ := by decide
  have hunit : (⟨999999⟩ : Duration).unit = .microsecond := by decide
  refine ⟨rfl, ?_, by decide, by decide, ?_⟩
  · rw [read?_text, hnumber, hunit]
  · norm_num [Json.Decimal.value]

end Duration

end SecretScan
