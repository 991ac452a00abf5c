import SecretScan.Toml.Text

/-!
# Numbers, booleans and dates

Values that are written without quotes.
-/

namespace SecretScan.Toml

/-- Digits between which single underscores may stand, without the underscores. -/
def ungroup (isDigit : Char → Bool) : List Char → Option (List Char)
  | [] => none
  | [c] => if isDigit c then some [c] else none
  | c :: '_' :: rest => if isDigit c then (ungroup isDigit rest).map (c :: ·) else none
  | c :: rest => if isDigit c then (ungroup isDigit rest).map (c :: ·) else none

/-- The number that digits spell in a base. -/
def ofDigits (base : Nat) (digits : List Char) : Nat :=
  digits.foldl (fun n c => n * base + (digitValue? base c).getD 0) 0

/-- A sign, if there is one, and whether it is a minus sign. -/
def splitSign : List Char → Bool × List Char
  | '-' :: cs => (true, cs)
  | '+' :: cs => (false, cs)
  | cs => (false, cs)

/-- Whether 128 bits can hold an integer, with a sign or without. -/
def fits : Int → Bool
  | .ofNat n => n < 1 <<< 128
  | .negSucc n => n < 1 <<< 127

/-- An integer, if it is one that 128 bits can hold. -/
def ranged (n : Int) : Except Error Value :=
  if fits n then .ok (.integer n) else .error .outOfRange

/-- The digits of a decimal integer: there is no zero before other digits. -/
def decimalDigits? (cs : List Char) : Option (List Char) :=
  match ungroup Char.isDigit cs with
  | some ('0' :: _ :: _) => none
  | digits => digits

/-- An integer in decimal digits with a sign, or without a sign in another base. -/
def integer? (cs : List Char) : Option (Except Error Value) :=
  let based (base : Nat) (digits : List Char) : Option (Except Error Value) :=
    (ungroup (fun c => (digitValue? base c).isSome) digits).map fun digits =>
      ranged (ofDigits base digits)
  match cs with
  | '0' :: 'x' :: digits => based 16 digits
  | '0' :: 'o' :: digits => based 8 digits
  | '0' :: 'b' :: digits => based 2 digits
  | cs =>
    let (negative, digits) := splitSign cs
    (decimalDigits? digits).map fun digits =>
      let n : Int := ofDigits 10 digits
      ranged (if negative then -n else n)

/-- Whether `mantissa * 10 ^ exponent` is too large for a binary number of 64 bits: it is so from
halfway between the largest one and the next power of two on. -/
def overflows (mantissa : Nat) (exponent : Int) : Bool :=
  let size := (Nat.toDigits 10 mantissa).length + exponent
  if mantissa = 0 || size < 300 then false
  else if 320 < size then true
  else
    let limit := 1 <<< 1024 - 1 <<< 970
    if 0 ≤ exponent then limit ≤ mantissa * Nat.pow 10 exponent.toNat
    else limit * Nat.pow 10 (-exponent).toNat ≤ mantissa

/-- A number with a fraction, an exponent or both. -/
def float? (cs : List Char) : Option (Except Error Value) :=
  let (_, cs) := splitSign cs
  if cs = "inf".toList ∨ cs = "nan".toList then some (.ok .float)
  else
    let isExponent (c : Char) : Bool := c == 'e' || c == 'E'
    let significand := cs.takeWhile fun c => !isExponent c
    let whole := significand.takeWhile (· != '.')
    let exponent := (cs.dropWhile fun c => !isExponent c).drop 1
    let hasFraction := significand.contains '.'
    let hasExponent := cs.any isExponent
    if !hasFraction && !hasExponent then none
    else
      let fraction := if hasFraction then
          ungroup Char.isDigit ((significand.dropWhile (· != '.')).drop 1)
        else some []
      let (negative, exponentDigits) := splitSign exponent
      let power := if hasExponent then ungroup Char.isDigit exponentDigits else some []
      match decimalDigits? whole, fraction, power with
      | some whole, some fraction, some power =>
        let e : Int := ofDigits 10 power
        let e := (if negative then -e else e) - fraction.length
        some (if overflows (ofDigits 10 (whole ++ fraction)) e then .error .outOfRange
          else .ok .float)
      | _, _, _ => none

/-- The number that exactly `n` digits at the start of a text spell, and the rest. -/
def digits? (n : Nat) (cs : List Char) : Option (Nat × List Char) :=
  if (cs.take n).length = n ∧ (cs.take n).all Char.isDigit then
    some (ofDigits 10 (cs.take n), cs.drop n)
  else none

/-- The number of days of a month. -/
def daysIn (year month : Nat) : Nat :=
  if month = 2 then
    if year % 4 = 0 ∧ (year % 100 ≠ 0 ∨ year % 400 = 0) then 29 else 28
  else if month = 4 ∨ month = 6 ∨ month = 9 ∨ month = 11 then 30
  else 31

/-- The text after a date. -/
def date? (cs : List Char) : Option (List Char) :=
  match digits? 4 cs with
  | some (year, '-' :: cs) => match digits? 2 cs with
    | some (month, '-' :: cs) => match digits? 2 cs with
      | some (day, cs) =>
        if 1 ≤ month ∧ month ≤ 12 ∧ 1 ≤ day ∧ day ≤ daysIn year month then some cs else none
      | none => none
    | _ => none
  | _ => none

/-- The text after the hours and minutes of a time or of an offset. -/
def hoursAndMinutes? (cs : List Char) : Option (List Char) :=
  match digits? 2 cs with
  | some (hour, ':' :: cs) => match digits? 2 cs with
    | some (minute, cs) => if hour ≤ 23 ∧ minute ≤ 59 then some cs else none
    | none => none
  | _ => none

/-- The text after a time. The seconds may be missing, and so may their fraction. -/
def time? (cs : List Char) : Option (List Char) :=
  match hoursAndMinutes? cs with
  | some (':' :: cs) => match digits? 2 cs with
    | some (second, cs) =>
      if 60 < second then none
      else match cs with
        | '.' :: fraction =>
          let rest := fraction.dropWhile Char.isDigit
          if rest.length < fraction.length then some rest else none
        | cs => some cs
    | none => none
  | rest => rest

/-- Whether a text is an offset from universal time. -/
def isOffset (cs : List Char) : Bool :=
  match cs with
  | ['Z'] | ['z'] => true
  | sign :: cs => (sign == '+' || sign == '-') && hoursAndMinutes? cs == some []
  | [] => false

/-- Whether a text is a date, a time, or both with or without an offset. -/
def isDateTime (cs : List Char) : Bool :=
  match date? cs with
  | some [] => true
  | some (sep :: cs) =>
    (sep == 'T' || sep == 't' || sep == ' ') && match time? cs with
      | some rest => rest.isEmpty || isOffset rest
      | none => false
  | none => time? cs == some []

/-- The value that a text without quotes stands for. -/
def scalar (cs : List Char) : Except Error Value :=
  if cs = "true".toList then .ok (.boolean true)
  else if cs = "false".toList then .ok (.boolean false)
  else if isDateTime cs then .ok .dateTime
  else match integer? cs with
    | some v => v
    | none => match float? cs with
      | some v => v
      | none => .error .badScalar

/-- Whether a character may stand in a value without quotes. -/
def isScalarChar (c : Char) : Bool :=
  c.isAlphanum || c == '+' || c == '-' || c == '_' || c == '.' || c == ':'

/-- Reads a value without quotes. A blank may stand between a date and a time. -/
def readScalar (cs : List Char) : Except Error (Value × List Char) := do
  let word := cs.takeWhile isScalarChar
  let rest := cs.dropWhile isScalarChar
  match rest with
  | ' ' :: a :: b :: ':' :: _ =>
    if date? word == some [] && a.isDigit && b.isDigit then
      let time := (rest.drop 1).takeWhile isScalarChar
      return (← scalar (word ++ ' ' :: time), (rest.drop 1).dropWhile isScalarChar)
    else return (← scalar word, rest)
  | _ => return (← scalar word, rest)

end SecretScan.Toml
