/-
  String literals in plain ASCII. Printable ASCII characters stand for themselves, except the
  quotation mark and the backslash; all others are written by short escapes or by their UTF-16
  units, so a character beyond U+FFFF takes two escapes and a surrogate one.

  Reading joins two escapes that follow each other and write a pair of units; no other surrogates are
  joined.
-/
import PageCompiler.Json.Fault
import PageCompiler.Text.Hex
import PageCompiler.Text.Utf16

namespace PageCompiler.Json

/-- The escape of one UTF-16 unit. -/
def escapeUnit (unit : Nat) : Text := "\\u" ++ Text.hexDigits 4 unit

def escapePoint (point : CodePoint) : Text :=
  if point = '\x22' then "\\\x22"
  else if point = '\\' then "\\\\"
  else if point = '\n' then "\\n"
  else if point = '\r' then "\\r"
  else if point = '\t' then "\\t"
  else if point = '\x08' then "\\b"
  else if point = '\x0c' then "\\f"
  else if 0x20 ≤ point.code ∧ point.code ≤ 0x7e then [point]
  else if point.code < 0x10000 then escapeUnit point.code
  else
    let offset := point.code - 0x10000
    escapeUnit (0xd800 + offset / 0x400) ++ escapeUnit (0xdc00 + offset % 0x400)

/-- A string literal, quotation marks included. -/
def stringLiteral (text : Text) : Text := "\x22" ++ text.flatMap escapePoint ++ "\x22"

/-- The character of a short escape. -/
def shortEscape? (point : CodePoint) : Option Char :=
  match point with
  | '\x22' => some '\x22'
  | '\\' => some '\\'
  | '/' => some '/'
  | 'n' => some '\n'
  | 'r' => some '\r'
  | 't' => some '\t'
  | 'b' => some '\x08'
  | 'f' => some '\x0c'
  | _ => none

/-- The unit written by four hexadecimal digits. -/
def unit? (a b c d : CodePoint) : Option Nat := do
  let a ← Text.hexValue? a
  let b ← Text.hexValue? b
  let c ← Text.hexValue? c
  let d ← Text.hexValue? d
  return ((a * 16 + b) * 16 + c) * 16 + d

/-- What is wrong in a string, and how many code points are left from there on. A string that does
    not end is at fault as a whole. -/
structure StringFault where
  problem : Problem
  left : Option Nat
deriving DecidableEq, Repr

/-- The text of a string and what follows its closing quotation mark. -/
abbrev ReadString := Except StringFault (Text × Text)

/-- Puts a code point in front of those that were read. -/
def consRead (point : CodePoint) : ReadString → ReadString
  | .ok (points, rest) => .ok (point :: points, rest)
  | .error fault => .error fault

/-- Whether a text starts with the escape of a unit. -/
def startsWithUnit : Text → Bool
  | '\\' :: 'u' :: _ => true
  | _ => false

/-- Puts an escaped unit in front of what was read after it. A high unit is joined with a low one if
    that one is escaped, too. -/
def consUnit (unit : Nat) (nextIsEscaped : Bool) (points : Text) : Text :=
  match points with
  | low :: rest =>
      if nextIsEscaped && Text.isHighUnit unit && Text.isLowUnit low.code then
        .ofCode (Text.pairedCode unit low.code) :: rest
      else .ofCode unit :: points
  | [] => [.ofCode unit]

def consReadUnit (unit : Nat) (nextIsEscaped : Bool) : ReadString → ReadString
  | .ok (points, rest) => .ok (consUnit unit nextIsEscaped points, rest)
  | .error fault => .error fault

/-- The fault of a unit whose escape is followed by `rest`, its letter and digits included. -/
def unitFault (rest : Text) : StringFault := ⟨.unitUnreadable, some rest.length⟩

/-- Reads a string up to its closing quotation mark. Control characters must be escaped. -/
def readStringBody : Text → ReadString
  | [] => .error ⟨.stringOpen, none⟩
  | '\\' :: 'u' :: a :: b :: c :: d :: rest =>
      match unit? a b c d with
      | none => .error (unitFault ('u' :: a :: b :: c :: d :: rest))
      | some unit =>
          if rest.isEmpty then .error (unitFault ['u', a, b, c, d])
          else consReadUnit unit (startsWithUnit rest) (readStringBody rest)
  | '\\' :: c :: rest =>
      match shortEscape? c with
      | none =>
          if c = 'u' then .error (unitFault (c :: rest))
          else .error ⟨.escapeUnknown, some (rest.length + 2)⟩
      | some plain => consRead plain (readStringBody rest)
  | c :: rest =>
      if c = '\x22' then .ok ([], rest)
      else if c = '\\' then .error ⟨.stringOpen, none⟩
      else if c.code < 0x20 then .error ⟨.controlCharacter, some (rest.length + 1)⟩
      else consRead c (readStringBody rest)

end PageCompiler.Json
