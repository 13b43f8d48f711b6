/-
  Why a text is not read as a value, and how a report words it. A fault keeps how many characters
  are left of the text from its place on, so that a reader needs no count of those before.
-/
import PageCompiler.Text.Basic

namespace PageCompiler.Json

/-- What is wrong with a text. -/
inductive Problem where
  | markInFront
  | valueExpected
  | nameExpected
  | colonExpected
  | commaExpected
  | stringOpen
  | controlCharacter
  | escapeUnknown
  | unitUnreadable
  | endExpected
deriving DecidableEq, Repr

def Problem.message : Problem → Text
  | .markInFront => "Unexpected UTF-8 BOM (decode using utf-8-sig)"
  | .valueExpected => "Expecting value"
  | .nameExpected => "Expecting property name enclosed in double quotes"
  | .colonExpected => "Expecting ':' delimiter"
  | .commaExpected => "Expecting ',' delimiter"
  | .stringOpen => "Unterminated string starting at"
  | .controlCharacter => "Invalid control character at"
  | .escapeUnknown => "Invalid \\escape"
  | .unitUnreadable => "Invalid \\uXXXX escape"
  | .endExpected => "Extra data"

inductive ReadFault where
  /-- A problem, and how many characters are left from its place on. -/
  | malformed (problem : Problem) (left : Nat)
  | tooDeep
  | tooLong (digits : Nat)
deriving DecidableEq, Repr

/-- The line of the place after a text, counted from one. -/
def lineAfter (before : Text) : Nat := before.count (.char '\n') + 1

/-- The column of the place after a text, counted from one. -/
def columnAfter (before : Text) : Nat :=
  (before.reverse.takeWhile (· ≠ .char '\n')).length + 1

/-- A problem with its place in the text. -/
def Problem.report (problem : Problem) (text : Text) (left : Nat) : Text :=
  let before := text.take (text.length - left)
  problem.message ++ ": line " ++ Text.ofNat (lineAfter before) ++ " column "
    ++ Text.ofNat (columnAfter before) ++ " (char " ++ Text.ofNat before.length ++ ")"

end PageCompiler.Json
