/-
  UTF-16 units. A character beyond U+FFFF is written by two units, a high and a low one, which
  stand for nothing on their own.
-/
import PageCompiler.Text.Basic

namespace PageCompiler.Text

def isHighUnit (unit : Nat) : Bool := 0xd800 ≤ unit && unit < 0xdc00

def isLowUnit (unit : Nat) : Bool := 0xdc00 ≤ unit && unit < 0xe000

/-- The code point of a pair of units. -/
def pairedCode (high low : Nat) : Nat := 0x10000 + (high - 0xd800) * 0x400 + (low - 0xdc00)

/-- Puts one code point for each high unit that a low one follows; a unit that stands alone stays. -/
def joinPairs : List Nat → List Nat
  | high :: low :: rest =>
      if isHighUnit high && isLowUnit low then pairedCode high low :: joinPairs rest
      else high :: joinPairs (low :: rest)
  | codes => codes

end PageCompiler.Text
