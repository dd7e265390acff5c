import BuilderSynthesis.Decimal.Double

/-!
Contract: the decimal text of a double with the fewest digits that read back.

Reading rounds to the nearest double, so a decimal reads back as a number exactly
if it lies between the midpoints to the neighbours, the midpoints included for an
even mantissa. For one digit, two digits and so on up to seventeen, only the two
points of the decimal grid next to the number can be the answer; of two that read
back the nearer is taken, and the larger if they are equally near. All comparisons
are between integers.

The digits are written positionally, however many zeros that takes, without an
exponent and without a fraction that is zero.
-/

namespace BuilderSynthesis.Decimal

/-- A magnitude with the midpoints to its neighbours, over one denominator. -/
structure Interval where
  lower : Nat
  centre : Nat
  upper : Nat
  denominator : Nat
  /-- Whether the midpoints themselves read back. -/
  isClosed : Bool
deriving Repr

/-- The numbers that read back as a positive finite double. -/
def Interval.ofDouble (number : Double) : Interval :=
  let scale := Nat.pow 2 (number.exponent - 2).toNat
  let gap := if number.isLowerGapNarrow then 1 else 2
  ⟨(4 * number.mantissa - gap) * scale, 4 * number.mantissa * scale,
    (4 * number.mantissa + 2) * scale, Nat.pow 2 (2 - number.exponent).toNat,
    number.mantissa % 2 == 0⟩

/-- A decimal number: digits times a power of ten. -/
structure Scaled where
  digits : Nat
  power : Int
deriving DecidableEq, Repr

/-- Whether a decimal number reads back as the centre of an interval. -/
def Interval.contains (interval : Interval) (scaled : Scaled) : Bool :=
  let value := scaled.digits * Nat.pow 10 scaled.power.toNat * interval.denominator
  let unit := Nat.pow 10 (-scaled.power).toNat
  if interval.isClosed then
    interval.lower * unit ≤ value && value ≤ interval.upper * unit
  else
    interval.lower * unit < value && value < interval.upper * unit

/-- The distance of a decimal number from the centre, over a denominator that
depends on the power of ten only. -/
def Interval.distance (interval : Interval) (scaled : Scaled) : Nat :=
  let value := scaled.digits * Nat.pow 10 scaled.power.toNat * interval.denominator
  let centre := interval.centre * Nat.pow 10 (-scaled.power).toNat
  (value - centre) + (centre - value)

/-- The number of zeros after the point in front of a fraction's first digit, up to a
number of steps. -/
def leadingZeros (numerator denominator : Nat) : Nat → Nat
  | 0 => 0
  | steps + 1 =>
      if denominator ≤ numerator * 10 then
        0
      else
        leadingZeros (numerator * 10) denominator steps + 1

/-- The number of digits in front of the point; for a fraction, minus the number of
zeros after the point. -/
def Interval.magnitude (interval : Interval) : Int :=
  let whole := interval.centre / interval.denominator
  if whole == 0 then
    -(leadingZeros interval.centre interval.denominator 400 : Int)
  else
    (Nat.toDigits 10 whole).length

/-- The grid points next to the centre that read back, the nearer first; the larger first if
they are equally near. -/
def Interval.candidates (interval : Interval) (power : Int) : List Scaled :=
  let below := interval.centre * Nat.pow 10 (-power).toNat /
    (interval.denominator * Nat.pow 10 power.toNat)
  let down : Scaled := ⟨below, power⟩
  let up : Scaled := ⟨below + 1, power⟩
  let ordered :=
    if interval.distance up ≤ interval.distance down then [up, down] else [down, up]
  ordered.filter interval.contains

/-- The first decimal number that reads back, trying ever finer grids. -/
def Interval.search (interval : Interval) (power : Int) : Nat → Scaled
  | 0 => ⟨interval.centre / interval.denominator, 0⟩
  | steps + 1 =>
      match interval.candidates power with
      | [] => interval.search (power - 1) steps
      | found :: _ => found

/-- A decimal number without zeros at the end of its digits. -/
def Scaled.normalize (scaled : Scaled) : Nat → Scaled
  | 0 => scaled
  | steps + 1 =>
      if scaled.digits % 10 == 0 then
        Scaled.normalize ⟨scaled.digits / 10, scaled.power + 1⟩ steps
      else
        scaled

/-- The decimal number with the fewest digits that reads back. -/
def shortest (number : Double) : Scaled :=
  let interval := Interval.ofDouble number
  (interval.search (interval.magnitude - 1) 17).normalize 17

def Scaled.text (scaled : Scaled) : List Char :=
  let digits := Nat.toDigits 10 scaled.digits
  let fraction := (-scaled.power).toNat
  if 0 ≤ scaled.power then
    digits ++ List.replicate scaled.power.toNat '0'
  else if fraction < digits.length then
    digits.take (digits.length - fraction) ++ '.' :: digits.drop (digits.length - fraction)
  else
    '0' :: '.' :: (List.replicate (fraction - digits.length) '0' ++ digits)

def magnitudeText (number : Double) : List Char :=
  if number.isNotANumber then
    ['N', 'a', 'N']
  else if !number.isFinite then
    ['i', 'n', 'f']
  else if number.mantissa == 0 then
    ['0']
  else
    (shortest number).text

/-- The shortest decimal text that reads back as a double. -/
def Double.text (number : Double) : String :=
  String.ofList
    (if number.isNegative && !number.isNotANumber then
      '-' :: magnitudeText number
    else
      magnitudeText number)

end BuilderSynthesis.Decimal
