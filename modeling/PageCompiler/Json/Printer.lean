/-
  The literal of a value: one line of ASCII that is read alike by the data format and by the
  generated modules. A comma and a colon are followed by one space.

  An integer of too many digits is not written (`write`). No such integer is in a document, since
  none is read, and so the literals of its values are taken without the test (`literal`).
-/
import PageCompiler.Json.Basic
import PageCompiler.Json.StringLiteral
import PageCompiler.Number.Text

namespace PageCompiler.Json

def intLiteral : Int → Text
  | .ofNat value => .ofNat value
  | .negSucc value => "-" ++ Text.ofNat (value + 1)

mutual

def literal : Json → Text
  | .null => "null"
  | .bool true => "true"
  | .bool false => "false"
  | .int value => intLiteral value
  | .float value => value.text
  | .str value => stringLiteral value
  | .arr [] => "[]"
  | .arr (first :: rest) => "[" ++ literal first ++ itemsLiteral rest ++ "]"
  | .obj [] => "\x7b\x7d"
  | .obj ((name, value) :: rest) =>
      "\x7b" ++ stringLiteral name ++ ": " ++ literal value ++ fieldsLiteral rest ++ "\x7d"

/-- The items after the first one. -/
def itemsLiteral : List Json → Text
  | [] => []
  | item :: rest => ", " ++ literal item ++ itemsLiteral rest

/-- The fields after the first one. -/
def fieldsLiteral : List (Text × Json) → Text
  | [] => []
  | (name, value) :: rest =>
      ", " ++ stringLiteral name ++ ": " ++ literal value ++ fieldsLiteral rest

end

/-- Why a value is not written. -/
inductive WriteFault where
  /-- One of its integers has too many digits. -/
  | tooLong
deriving DecidableEq, Repr

/-- The most digits of an integer that is written. -/
def maxDigits : Nat := 4300

def writeInt (value : Int) : Except WriteFault Text :=
  if maxDigits < (Text.ofNat value.natAbs).length then .error .tooLong
  else .ok (intLiteral value)

mutual

/-- Writes a value, unless one of its integers is too long. -/
def write : Json → Except WriteFault Text
  | .int value => writeInt value
  | .arr (first :: rest) => do
      let written ← write first
      let others ← writeItems rest
      return "[" ++ written ++ others ++ "]"
  | .obj ((name, value) :: rest) => do
      let written ← write value
      let others ← writeFields rest
      return "\x7b" ++ stringLiteral name ++ ": " ++ written ++ others ++ "\x7d"
  | value => .ok value.literal

def writeItems : List Json → Except WriteFault Text
  | [] => .ok []
  | item :: rest => do
      let written ← write item
      let others ← writeItems rest
      return ", " ++ written ++ others

def writeFields : List (Text × Json) → Except WriteFault Text
  | [] => .ok []
  | (name, value) :: rest => do
      let written ← write value
      let others ← writeFields rest
      return ", " ++ stringLiteral name ++ ": " ++ written ++ others

end

end PageCompiler.Json
