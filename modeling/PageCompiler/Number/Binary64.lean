/-
  Double-precision binary numbers, with exact rounding from decimal.

  A finite number is `±mantissa · 2 ^ exponent` with `mantissa < 2 ^ 53` and `-1074 ≤ exponent`,
  and with `2 ^ 52 ≤ mantissa` unless the exponent is the least one. `ofDecimal` gives such
  numbers only; everything is computed in natural numbers.
-/
namespace PageCompiler

inductive Binary64 where
  | finite (negative : Bool) (mantissa : Nat) (exponent : Int)
  | infinite (negative : Bool)
  | nan
deriving DecidableEq, Repr, Inhabited

namespace Binary64

/-- The exponent of the smallest positive number. -/
def minExponent : Int := -1074

/-- The exponent of the largest finite number. -/
def maxExponent : Int := 971

/-- Mantissas have 53 binary digits, so this is the least one that is not padded by zeros. -/
def leastFull : Nat := 4503599627370496

def zero (negative : Bool) : Binary64 := .finite negative 0 minExponent

/-- The integer nearest to a quotient; a half goes to the even neighbour. -/
def roundQuotient (numerator denominator : Nat) : Nat :=
  let floor := numerator / denominator
  let rest := 2 * (numerator % denominator)
  if rest < denominator || (rest == denominator && floor % 2 == 0) then floor else floor + 1

/-- A numerator and a denominator of `2 ^ power`. -/
def powerOfTwo (power : Int) : Nat × Nat := (Nat.pow 2 power.toNat, Nat.pow 2 (-power).toNat)

/-- A numerator and a denominator of `10 ^ power`. -/
def powerOfTen (power : Int) : Nat × Nat := (Nat.pow 10 power.toNat, Nat.pow 10 (-power).toNat)

/-- The exponent that leaves 53 binary digits before the point of a positive quotient. -/
def quotientExponent (numerator denominator : Nat) : Int :=
  let estimate : Int := (numerator.log2 : Int) - denominator.log2 - 52
  let (up, down) := powerOfTwo estimate
  let full := leastFull * (denominator * up) ≤ numerator * down
  max minExponent (if full then estimate else estimate - 1)

/-- The number nearest to `numerator / denominator`. -/
def ofQuotient (negative : Bool) (numerator denominator : Nat) : Binary64 :=
  if numerator = 0 then zero negative
  else
    let exponent := quotientExponent numerator denominator
    let (up, down) := powerOfTwo exponent
    let mantissa := roundQuotient (numerator * down) (denominator * up)
    let (mantissa, exponent) :=
      if mantissa = 2 * leastFull then (leastFull, exponent + 1) else (mantissa, exponent)
    if exponent > maxExponent then .infinite negative else .finite negative mantissa exponent

/-- Decimal exponents beyond this bound are rounded without computing the power of ten. -/
def decimalBound : Int := 400

/-- The number nearest to `±digits · 10 ^ power`; one too large for the format is infinite. -/
def ofDecimal (negative : Bool) (digits : Nat) (power : Int) : Binary64 :=
  let magnitude : Int := (Nat.toDigits 10 digits).length + power
  if digits = 0 || magnitude < -decimalBound then zero negative
  else if magnitude > decimalBound then .infinite negative
  else
    let (up, down) := powerOfTen power
    ofQuotient negative (digits * up) down

/-- The integer that a finite number equals, if it is a whole number. -/
def toInt? : Binary64 → Option Int
  | .finite negative mantissa exponent =>
      let (up, down) := powerOfTwo exponent
      if (mantissa * up) % down = 0 then
        let magnitude : Int := (mantissa * up / down : Nat)
        some (if negative then -magnitude else magnitude)
      else none
  | _ => none

end Binary64

end PageCompiler
