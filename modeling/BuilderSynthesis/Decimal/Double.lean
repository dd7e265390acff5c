/-!
Contract: double-precision numbers as their sixty-four bits, and what they stand for.

A finite double is a sign and a magnitude `mantissa * 2 ^ exponent`. Two doubles
are one value of this type exactly if their bits agree; `sameNumber` is the
numeric comparison, under which the two zeros agree and a NaN agrees with nothing.
-/

namespace BuilderSynthesis.Decimal

/-- A double-precision number, by its bits. -/
structure Double where
  bits : UInt64
deriving DecidableEq, Repr, Inhabited

namespace Double

def zero : Double :=
  ⟨0⟩

/-- Whether the sign bit is set. -/
def isNegative (number : Double) : Bool :=
  number.bits.toNat / Nat.pow 2 63 == 1

def exponentField (number : Double) : Nat :=
  number.bits.toNat / Nat.pow 2 52 % Nat.pow 2 11

def fractionField (number : Double) : Nat :=
  number.bits.toNat % Nat.pow 2 52

def isFinite (number : Double) : Bool :=
  number.exponentField != 2047

def isNotANumber (number : Double) : Bool :=
  number.exponentField == 2047 && number.fractionField != 0

/-- The integer that a power of two scales to the magnitude. -/
def mantissa (number : Double) : Nat :=
  if number.exponentField == 0 then
    number.fractionField
  else
    Nat.pow 2 52 + number.fractionField

/-- The power of two that scales the mantissa. -/
def exponent (number : Double) : Int :=
  (if number.exponentField == 0 then 1 else (number.exponentField : Int)) - 1075

/-- Whether the next smaller magnitude is nearer than the next larger one. -/
def isLowerGapNarrow (number : Double) : Bool :=
  number.fractionField == 0 && decide (1 < number.exponentField)

/-- Whether two doubles compare as equal numbers. -/
def sameNumber (left right : Double) : Bool :=
  !left.isNotANumber && !right.isNotANumber &&
    (left == right ||
      (left.bits.toNat % Nat.pow 2 63 == 0 && right.bits.toNat % Nat.pow 2 63 == 0))

end Double

end BuilderSynthesis.Decimal
