/-
  White space: the characters that separate words and lines in any script.

  It includes the four information separators U+001C to U+001F, the next-line control U+0085 and
  the no-break spaces; it does not include the zero-width space U+200B or the mark U+FEFF.
-/
import PageCompiler.Text.Basic

namespace PageCompiler.Text

def blankRanges : List (Nat × Nat) := [
  (9, 13), (28, 32), (133, 133), (160, 160), (5760, 5760), (8192, 8202), (8232, 8233),
  (8239, 8239), (8287, 8287), (12288, 12288)]

def isBlank (point : CodePoint) : Bool := inRanges blankRanges point.code

/-- The text from its first code point that is not blank. -/
def trimLeft (text : Text) : Text := text.dropWhile isBlank

/-- The text up to its last code point that is not blank. -/
def trimRight (text : Text) : Text := (text.reverse.dropWhile isBlank).reverse

def trim (text : Text) : Text := trimRight (trimLeft text)

theorem isBlank_of_isWhitespace {c : Char} (white : c.isWhitespace = true) :
    isBlank (.char c) = true := by
  simp only [Char.isWhitespace, Bool.or_eq_true, decide_eq_true_eq] at white
  rcases white with ((rfl | rfl) | rfl) | rfl <;> decide

end PageCompiler.Text
