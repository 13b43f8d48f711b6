/-
  The text of a double in a literal: its shortest decimal, positional while the exponent of the
  first digit is between -4 and 15 and scientific otherwise, never without a point or an exponent.
-/
import PageCompiler.Number.Shortest
import PageCompiler.Text.Basic

namespace PageCompiler.Binary64

/-- The digits of a decimal without trailing zeros. -/
def significantDigits (decimal : Decimal) : List Char :=
  ((Nat.toDigits 10 decimal.digits).reverse.dropWhile (· == '0')).reverse

/-- An exponent with its sign and two digits at least. -/
def exponentText (exponent : Int) : List Char :=
  let digits := Nat.toDigits 10 exponent.natAbs
  let padded := if digits.length < 2 then '0' :: digits else digits
  (if exponent < 0 then '-' else '+') :: padded

def scientificText (digits : List Char) (exponent : Int) : List Char :=
  match digits with
  | [] => []
  | [first] => first :: 'e' :: exponentText exponent
  | first :: rest => first :: '.' :: rest ++ 'e' :: exponentText exponent

def positionalText (digits : List Char) (exponent : Int) : List Char :=
  if exponent < 0 then
    '0' :: '.' :: List.replicate (-exponent - 1).toNat '0' ++ digits
  else
    let whole := exponent.toNat + 1
    let padded := digits ++ List.replicate (whole - digits.length) '0'
    let fraction := padded.drop whole
    padded.take whole ++ '.' :: (if fraction.isEmpty then ['0'] else fraction)

/-- Exponents of the first digit that are written positionally. -/
def isPositional (exponent : Int) : Bool := -4 ≤ exponent && exponent < 16

def magnitudeText (mantissa : Nat) (exponent : Int) : List Char :=
  if mantissa = 0 then ['0', '.', '0']
  else
    let decimal := shortest mantissa exponent
    let digits := significantDigits decimal
    let leading := decimal.power + (Nat.toDigits 10 decimal.digits).length - 1
    if isPositional leading then positionalText digits leading else scientificText digits leading

/-- The literal of a double. -/
def text : Binary64 → Text
  | .nan => "NaN"
  | .infinite negative => if negative then "-Infinity" else "Infinity"
  | .finite negative mantissa exponent =>
      .ofChars ((if negative then ['-'] else []) ++ magnitudeText mantissa exponent)

end PageCompiler.Binary64
