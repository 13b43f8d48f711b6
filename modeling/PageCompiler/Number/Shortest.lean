/-
  The shortest decimal of a double: the fewest digits that read back as the same number, and of
  the decimals with that many digits the one nearest to it.

  All reals between the midpoints to its two neighbours read back as a number, the midpoints
  themselves when its mantissa is even. A grid of decimals meets that interval exactly if one of
  the two grid points around the number does.
-/
import PageCompiler.Number.Binary64

namespace PageCompiler.Binary64

/-- The number `digits · 10 ^ power`. -/
structure Decimal where
  digits : Nat
  power : Int
deriving DecidableEq, Repr

/-- The bounds of the reals that read back as `mantissa · 2 ^ exponent`, and that number between
    them, each in units of `2 ^ (exponent - 2)`. -/
structure Interval where
  low : Nat
  value : Nat
  high : Nat
  closed : Bool

def interval (mantissa : Nat) (exponent : Int) : Interval where
  low := if mantissa = leastFull ∧ exponent > minExponent then 4 * mantissa - 1 else 4 * mantissa - 2
  value := 4 * mantissa
  high := 4 * mantissa + 2
  closed := mantissa % 2 = 0

/-- Whether `point · down` lies between the bounds times `up`. -/
def Interval.holds (i : Interval) (up down point : Nat) : Bool :=
  if i.closed then i.low * up ≤ point * down && point * down ≤ i.high * up
  else i.low * up < point * down && point * down < i.high * up

/-- The decimal exponent of the first digit of a positive number. -/
def leadingPower (mantissa : Nat) (exponent : Int) : Int :=
  let (up, down) := powerOfTwo exponent
  let scaled := mantissa * up * Nat.pow 10 400 / down
  (Nat.toDigits 10 scaled).length - 401

/-- The decimal with `count` digits that is nearest to the number among those that read back as
    it; of two equally near the even one. -/
def decimalOfLength? (mantissa : Nat) (exponent : Int) (count : Nat) : Option Decimal :=
  let power := leadingPower mantissa exponent - count + 1
  let (up, down) := powerOfTwo (exponent - 2)
  let (tenUp, tenDown) := powerOfTen power
  let numerator := up * tenDown
  let denominator := down * tenUp
  let bounds := interval mantissa exponent
  let below := bounds.value * numerator / denominator
  let rest := 2 * (bounds.value * numerator % denominator)
  let belowFirst := rest < denominator || (rest == denominator && below % 2 == 0)
  let nearer := if belowFirst then below else below + 1
  let farther := if belowFirst then below + 1 else below
  if bounds.holds numerator denominator nearer then some ⟨nearer, power⟩
  else if bounds.holds numerator denominator farther then some ⟨farther, power⟩
  else none

/-- The shortest decimal of `mantissa · 2 ^ exponent`, which takes 17 digits at most. -/
def shortest (mantissa : Nat) (exponent : Int) : Decimal :=
  ((List.range 17).findSome? fun count => decimalOfLength? mantissa exponent (count + 1)).getD
    ⟨mantissa, 0⟩

end PageCompiler.Binary64
