/-!
# Rounding

Ratios of natural numbers, rounded to integers, to a number of decimal places, and to binary numbers
with 53 significant bits. Halves go to the even neighbour.
-/

namespace SecretScan

/-- A ratio of natural numbers. The denominator is not zero. -/
structure Ratio where
  num : Nat
  den : Nat
  deriving Repr, DecidableEq

namespace Ratio

/-- A natural number as a ratio. -/
def ofNat (n : Nat) : Ratio := ⟨n, 1⟩

/-- The sum of two ratios. -/
def add (a b : Ratio) : Ratio := ⟨a.num * b.den + b.num * a.den, a.den * b.den⟩

/-- The nearest integer. -/
def round (r : Ratio) : Nat :=
  let whole := r.num / r.den
  let rest := r.num % r.den
  if 2 * rest < r.den then whole
  else if r.den < 2 * rest then whole + 1
  else if whole % 2 = 0 then whole else whole + 1

/-- The ratio times a power of two. -/
def scale (r : Ratio) (exponent : Int) : Ratio :=
  if 0 ≤ exponent then ⟨r.num <<< exponent.toNat, r.den⟩
  else ⟨r.num, r.den <<< (-exponent).toNat⟩

/-- The number of significant bits of a binary number. -/
def precision : Nat := 53

/-- The power of two by which a ratio other than zero is scaled so that its integer part has as many
bits as a binary number. -/
def shift (r : Ratio) : Int :=
  let first : Int := (precision : Int) - 1 - (r.num.log2 : Int) + (r.den.log2 : Int)
  let scaled := r.scale first
  if scaled.num < scaled.den <<< (precision - 1) then first + 1 else first

/-- The nearest binary number. The exponent is not bounded. -/
def toBinary (r : Ratio) : Ratio :=
  if r.num = 0 then r else (ofNat (r.scale r.shift).round).scale (-r.shift)

/-- The decimal text of the ratio, rounded to some places. -/
def toFixed (places : Nat) (r : Ratio) : String :=
  let unit := Nat.pow 10 places
  let n := round ⟨r.num * unit, r.den⟩
  let whole := n / unit
  let digits := Nat.toDigits 10 (n % unit)
  toString whole ++ "." ++
    String.ofList (List.replicate (places - digits.length) '0' ++ digits)

end Ratio

end SecretScan
