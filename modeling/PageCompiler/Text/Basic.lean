/-
  Texts: lists of code points. Most texts hold characters only; only those can be sent or written to
  a file.
-/
import PageCompiler.Text.CodePoint

namespace PageCompiler

abbrev Text := List CodePoint

namespace Text

instance : LawfulBEq Text := inferInstance

def ofChars (chars : List Char) : Text := chars.map .char

def ofString (text : String) : Text := ofChars text.toList

instance : Coe String Text := ⟨ofString⟩

/-- The decimal digits of a number. -/
def ofNat (value : Nat) : Text := ofChars (Nat.toDigits 10 value)

/-- Whether a text holds characters only. -/
def isScalar (text : Text) : Bool := text.all (!·.isSurrogate)

/-- A surrogate would take three bytes, and each of them is replaced by U+FFFD. -/
def replaced : CodePoint → List Char
  | .char c => [c]
  | .surrogate _ => ['\ufffd', '\ufffd', '\ufffd']

/-- The characters of a text, with replacements for surrogates. -/
def toChars (text : Text) : List Char := text.flatMap replaced

def shown (text : Text) : String := String.ofList (toChars text)

/-- The ASCII letters of a text in lower case; all else stays. -/
def asciiLower (text : Text) : Text :=
  text.map fun
    | .char c => .char c.toLower
    | point => point

theorem toChars_ofChars (chars : List Char) : toChars (ofChars chars) = chars := by
  induction chars with
  | nil => rfl
  | cons c rest ih => simpa [ofChars, toChars, replaced] using ih

theorem isScalar_ofChars (chars : List Char) : isScalar (ofChars chars) = true := by
  simp [isScalar, ofChars, CodePoint.isSurrogate]

end Text

end PageCompiler
