/-
  Quoting of a text inside a message. Single quotes are used unless the text holds a single quote
  and no double quote; what has no visible shape is written by its code point.
-/
import PageCompiler.Text.Hex
import PageCompiler.Text.Hidden

namespace PageCompiler.Text

/-- The quotation mark that needs the fewer escapes, the single one if in doubt. -/
def quoteMark (text : Text) : CodePoint :=
  if text.contains '\x27' && !text.contains '\x22' then '\x22' else '\x27'

/-- A code point by its number, in two, four or eight hexadecimal digits. -/
def numbered (point : CodePoint) : Text :=
  if point.code < 0x100 then "\\x" ++ hexDigits 2 point.code
  else if point.code < 0x10000 then "\\u" ++ hexDigits 4 point.code
  else "\\U" ++ hexDigits 8 point.code

def quotedPoint (mark point : CodePoint) : Text :=
  if point = mark ∨ point = '\\' then ['\\', point]
  else if point = '\n' then "\\n"
  else if point = '\r' then "\\r"
  else if point = '\t' then "\\t"
  else if isHidden point then numbered point
  else [point]

/-- The text between quotation marks, as messages show names and templates. -/
def quoted (text : Text) : Text :=
  let mark := quoteMark text
  mark :: text.flatMap (quotedPoint mark) ++ [mark]

end PageCompiler.Text
