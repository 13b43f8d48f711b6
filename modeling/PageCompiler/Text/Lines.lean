/-
  Lines of a text. A line ends at a line feed, a carriage return, the two together, or one of the
  other boundary characters below; a boundary at the end of the text opens no further line.
-/
import PageCompiler.Text.Split

namespace PageCompiler.Text

/-- Line and page separators other than the pair of carriage return and line feed. -/
def isLineBoundary (point : CodePoint) : Bool :=
  point ∈ ("\n\r\x0b\x0c\x1c\x1d\x1e\u0085\u2028\u2029" : Text)

def splitLines : Text → List Text
  | [] => []
  | '\r' :: '\n' :: rest => [] :: splitLines rest
  | point :: rest =>
      if isLineBoundary point then [] :: splitLines rest else consToFirst point (splitLines rest)

end PageCompiler.Text
