/-
  Hexadecimal digits of a fixed width, lower case.
-/
import PageCompiler.Text.Basic

namespace PageCompiler.Text

def hexDigit (value : Nat) : CodePoint := ("0123456789abcdef" : Text).getD (value % 16) '0'

/-- The last `width` hexadecimal digits of a number, leading zeros included. -/
def hexDigits : Nat → Nat → Text
  | 0, _ => []
  | width + 1, value => hexDigits width (value / 16) ++ [hexDigit value]

/-- The value of a hexadecimal digit of either case. -/
def hexValue? (point : CodePoint) : Option Nat :=
  let code := point.code
  if 48 ≤ code ∧ code ≤ 57 then some (code - 48)
  else if 97 ≤ code ∧ code ≤ 102 then some (code - 87)
  else if 65 ≤ code ∧ code ≤ 70 then some (code - 55)
  else none

theorem length_hexDigits (width value : Nat) : (hexDigits width value).length = width := by
  induction width generalizing value with
  | zero => rfl
  | succ width ih => simp [hexDigits, ih]

theorem hexValue?_hexDigit : ∀ value < 16, hexValue? (hexDigit value) = some value := by
  decide

end PageCompiler.Text
