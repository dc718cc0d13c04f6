/-!
# Binary64 numbers as text

The decimal text of a floating-point number has the fewest digits that still round to it, and of
those the nearest. The digits are found in exact arithmetic: a number of `n` significant digits is a
point of a grid, and only the two points around the value can be nearest to it.
-/

namespace SubscriberContract.Text

/-- How the digits of a number are laid out. The leading exponent is that of the first digit. -/
structure FloatStyle where
  /-- The least leading exponent that is written without an exponent part. -/
  positionalFrom : Int
  /-- The greatest leading exponent that is written without an exponent part. -/
  positionalTo : Int

namespace Binary64

/-- The sign bit, and `m` and `e` with the magnitude `m · 2 ^ e`. -/
def parts (bits : UInt64) : Bool × Nat × Int :=
  let n := bits.toNat
  let fraction : Nat := n % Nat.pow 2 52
  let exponent : Nat := n / Nat.pow 2 52 % Nat.pow 2 11
  (n / Nat.pow 2 63 == 1,
    if exponent = 0 then (fraction, -1074) else (fraction + Nat.pow 2 52, (exponent : Int) - 1075))

/-- A quotient of naturals, times a power of a base. -/
def scaled (base : Nat) (num den : Nat) (power : Int) : Nat × Nat :=
  let factor := Nat.pow base power.natAbs
  if power < 0 then (num, den * factor) else (num * factor, den)

/-- The exponent `k` with `10 ^ (k - 1) ≤ num / den < 10 ^ k`, for every positive binary64 value. -/
def decimalExponent (num den : Nat) : Int :=
  ((Nat.toDigits 10 (num * Nat.pow 10 400 / den)).length : Int) - 400

/-- The digits of a positive value and the exponent after the last digit, from a grid of `n` digits;
nothing when no point of the grid rounds to the value. -/
def onGrid? (m : Nat) (e : Int) (n : Nat) : Option (Nat × Int) :=
  let (unit, den) := scaled 2 1 1 (e - 2)
  let last := decimalExponent (4 * m * unit) den - n
  -- In units of the grid and over `den`: the value, and the interval that rounds to it.
  let (unit, den) := scaled 10 unit den (-last)
  let value := 4 * m * unit
  let below := if m = Nat.pow 2 52 ∧ e > -1074 then unit else 2 * unit
  let low := value - below
  let high := value + 2 * unit
  let rounds (q : Nat) : Bool :=
    if m % 2 = 0 then low ≤ q * den && q * den ≤ high else low < q * den && q * den < high
  let q := value / den
  let toLower := value - q * den
  let toUpper := (q + 1) * den - value
  match rounds q, rounds (q + 1) with
  | false, false => none
  | true, false => some (q, last)
  | false, true => some (q + 1, last)
  | true, true =>
    let lower : Bool := toLower < toUpper ∨ toLower = toUpper ∧ q % 2 = 0
    some (if lower then q else q + 1, last)

/-- The first grid of at least `n` digits on which the value is met; 17 digits always suffice. -/
def shortest (m : Nat) (e : Int) : Nat → Nat → Nat × Int
  | 0, _ => (0, 0)
  | tries + 1, n => (onGrid? m e n).getD (shortest m e tries (n + 1))

/-- Moves trailing zeros of the digits into the exponent. -/
def dropZeros : Nat → Nat × Int → Nat × Int
  | 0, r => r
  | tries + 1, (digits, last) =>
    if digits ≠ 0 ∧ digits % 10 = 0 then dropZeros tries (digits / 10, last + 1)
    else (digits, last)

end Binary64

open Binary64

/-- Digits with a point after the first `whole` of them, padded with zeros on either side. -/
def FloatStyle.point (digits : List Char) (whole : Int) : List Char :=
  if whole ≤ 0 then '0' :: '.' :: (List.replicate whole.natAbs '0' ++ digits)
  else
    let whole := whole.natAbs
    if digits.length ≤ whole then
      digits ++ List.replicate (whole - digits.length) '0' ++ ['.', '0']
    else digits.take whole ++ '.' :: digits.drop whole

/-- The text of the number with these bits. -/
def FloatStyle.print (style : FloatStyle) (bits : UInt64) : String :=
  let (negative, m, e) := parts bits
  let sign := if negative then "-" else ""
  if bits.toNat / Nat.pow 2 52 % Nat.pow 2 11 = 2047 then
    if m = Nat.pow 2 52 then sign ++ "inf" else "NaN"
  else if m = 0 then sign ++ "0.0"
  else
    let (digits, last) := dropZeros 17 (shortest m e 17 1)
    let ds := Nat.toDigits 10 digits
    let leading := last + (ds.length : Int) - 1
    if style.positionalFrom ≤ leading ∧ leading ≤ style.positionalTo then
      sign ++ String.ofList (FloatStyle.point ds (leading + 1))
    else
      let mantissa := match ds with
        | d :: c :: rest => d :: '.' :: c :: rest
        | _ => ds
      let exponent := (if leading < 0 then "-" else "+") ++ toString leading.natAbs
      sign ++ String.ofList mantissa ++ "e" ++ exponent

end SubscriberContract.Text
