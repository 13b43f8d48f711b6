/-
  Identifiers of the generated module: which words are reserved, how names are joined, and how any
  text becomes an identifier.
-/
import PageCompiler.Text.Uppercase

namespace PageCompiler.Identifier

/-- Words that no generated name may be: the reserved words of the generated language and the
    globals that must not be shadowed. -/
def reservedWords : List Text := List.map Text.ofString [
  "await", "break", "case", "catch", "class", "const", "continue", "debugger", "default",
  "delete", "do", "else", "enum", "export", "extends", "false", "finally", "for", "function",
  "if", "implements", "import", "in", "instanceof", "interface", "let", "new", "null", "package",
  "private", "protected", "public", "return", "static", "super", "switch", "this", "throw",
  "true", "try", "typeof", "var", "void", "while", "with", "yield", "undefined", "NaN",
  "Infinity", "arguments", "eval"]

def isReserved (name : Text) : Bool := reservedWords.contains name

/-- Characters that may stand in an identifier; all but digits may also start one. -/
def isPart : CodePoint → Bool :=
  CodePoint.holds fun c => c.isAlphanum || c == '_' || c == '$'

def isStart : CodePoint → Bool :=
  CodePoint.holds fun c => c.isAlpha || c == '_' || c == '$'

/-- The shape of an identifier in plain ASCII. -/
def IsValid (name : Text) : Prop :=
  ∃ first rest, name = first :: rest ∧ isStart first ∧ ∀ point ∈ rest, isPart point

/-- Upper-cases the first code point and keeps the rest. -/
def capitalize (text : Text) : Text :=
  match text with
  | [] => []
  | first :: rest => Text.upperPoint first ++ rest

/-- Joins words: the first as it is, the others capitalized. -/
def camelCase : List Text → Text
  | [] => []
  | first :: rest => first ++ rest.flatMap capitalize

/-- An identifier that looks like the text: other code points become low lines, and a leading digit
    gets one in front. -/
def sanitize (text : Text) : Text :=
  match text.map fun point => if isPart point then point else '_' with
  | [] => "_"
  | first :: rest => if first.isDigit then '_' :: first :: rest else first :: rest

theorem isStart_of_isPart {point : CodePoint} (part : isPart point) (noDigit : ¬ point.isDigit) :
    isStart point := by
  cases point with
  | surrogate _ => simp [isPart, CodePoint.holds] at part
  | char c =>
      simp only [CodePoint.isDigit, CodePoint.holds] at noDigit
      simpa [isPart, isStart, CodePoint.holds, Char.isAlphanum, noDigit] using part

theorem isValid_sanitize (text : Text) : IsValid (sanitize text) := by
  have parts : ∀ point ∈ text.map (fun point => if isPart point then point else '_'),
      isPart point := by
    intro point member
    obtain ⟨source, _, rfl⟩ := List.mem_map.mp member
    split
    · assumption
    · decide
  unfold IsValid sanitize
  split
  · exact ⟨'_', [], rfl, by decide, by simp⟩
  · next first rest shape =>
      rw [shape] at parts
      by_cases digit : first.isDigit
      · exact ⟨'_', first :: rest, by simp [digit], by decide, parts⟩
      · exact ⟨first, rest, by simp [digit], isStart_of_isPart (parts first (by simp)) digit,
          fun point member => parts point (by simp [member])⟩

end PageCompiler.Identifier
