/-
  Percent escapes in the path of a resource: a percent sign and two hexadecimal digits stand for the
  character with that code.
-/
import PageCompiler.Text.Hex

namespace PageCompiler.Text

/-- The ASCII character that two hexadecimal digits name. -/
def escapedChar? (high low : CodePoint) : Option Char := do
  let high ← hexValue? high
  let low ← hexValue? low
  if high < 8 then some (Char.ofNat (high * 16 + low)) else none

/-- Replaces the escapes of ASCII characters once, from left to right; all else stays. -/
def unescape : Text → Text
  | '%' :: high :: low :: rest =>
      match escapedChar? high low with
      | some plain => plain :: unescape rest
      | none => '%' :: unescape (high :: low :: rest)
  | point :: rest => point :: unescape rest
  | [] => []

end PageCompiler.Text
