import SecretScan.Number.Rounding

/-!
# Durations

A duration is shown in the largest unit of which it holds at least one: nanoseconds as an integer,
microseconds and milliseconds with one decimal place, seconds with two. The quotient is computed
with binary numbers before it is rounded to decimal places.
-/

namespace SecretScan

/-- A length of time. -/
structure Duration where
  nanos : Nat
  deriving DecidableEq, Repr

namespace Duration

/-- The nanoseconds of a microsecond. -/
def microsecond : Nat := 1000

/-- The nanoseconds of a millisecond. -/
def millisecond : Nat := 1000000

/-- The nanoseconds of a second. -/
def second : Nat := 1000000000

/-- The duration of some seconds and nanoseconds. -/
def ofParts (seconds nanos : Nat) : Duration := ⟨seconds * second + nanos⟩

/-- The number of whole milliseconds, as far as 64 bits can hold it. -/
def millis (d : Duration) : Nat := min (d.nanos / millisecond) (UInt64.size - 1)

/-- The number of units of `size` nanoseconds as a binary number. -/
def quotient (d : Duration) (size : Nat) : Ratio :=
  let n := (Ratio.ofNat d.nanos).toBinary
  Ratio.toBinary ⟨n.num, n.den * size⟩

/-- The number of seconds as a binary number: the whole seconds and the rest are converted one by
one. -/
def seconds (d : Duration) : Ratio :=
  let whole := (Ratio.ofNat (d.nanos / second)).toBinary
  let rest := Ratio.toBinary ⟨d.nanos % second, second⟩
  (whole.add rest).toBinary

/-- The text of a duration. -/
def text (d : Duration) : String :=
  if d.nanos < microsecond then toString d.nanos ++ "ns"
  else if d.nanos < millisecond then (d.quotient microsecond).toFixed 1 ++ "µs"
  else if d.nanos < second then (d.quotient millisecond).toFixed 1 ++ "ms"
  else d.seconds.toFixed 2 ++ "s"

end Duration

end SecretScan
