/-
  Pieces of generated code and how they are written into markup: as attributes, as the content of
  an element or as an object literal.
-/
import PageCompiler.Json.StringLiteral
import PageCompiler.Table

namespace PageCompiler

/-- Where a piece of code can stand. -/
inductive CodeKind where
  /-- An expression. -/
  | expression
  /-- A markup element, which is both an expression and content. -/
  | element
  /-- Content that becomes an expression only inside a fragment. -/
  | fragment
deriving DecidableEq, Repr

structure Code where
  kind : CodeKind
  text : Text
deriving DecidableEq, Repr

/-- The resolved props of a node, in the order in which they are written. -/
abbrev Props := Table Code

namespace Code

def expression (text : Text) : Code := ⟨.expression, text⟩

/-- The prop that holds spread attributes, written as they are. -/
def spreadProp : Text := "$spread"

/-- The prop that holds the content of an element. -/
def contentProp : Text := "children"

def undefinedText : Text := "undefined"

/-- The code as an expression. -/
def asExpression : Option Code → Text
  | none => undefinedText
  | some ⟨.fragment, text⟩ => "<>" ++ text ++ "</>"
  | some code => code.text

/-- The code as the content of an element. -/
def asContent : Option Code → Text
  | none => []
  | some ⟨.expression, text⟩ => "\x7b" ++ text ++ "\x7d"
  | some code => code.text

end Code

namespace Props

def attributeText (entry : Text × Code) : Text :=
  if entry.1 = Code.spreadProp then entry.2.text
  else entry.1 ++ "=\x7b" ++ Code.asExpression (some entry.2) ++ "\x7d"

/-- The props as the attributes of an element. -/
def attributes (props : Props) : Text :=
  List.intercalate " " (props.entries.map attributeText)

/-- The props as an object literal, which has no place for spread attributes. -/
def objectLiteral (props : Props) : Text :=
  let fields := props.entries.filter (·.1 ≠ Code.spreadProp)
  let texts := fields.map fun entry =>
    Json.stringLiteral entry.1 ++ ": " ++ Code.asExpression (some entry.2)
  "\x7b" ++ List.intercalate ", " texts ++ "\x7d"

/-- An element whose content is the content prop and whose attributes are all others. -/
def element (name : Text) (props : Props) : Text :=
  let attributes := Props.attributes (props.erase Code.contentProp)
  let opening := if attributes.isEmpty then name else name ++ " " ++ attributes
  match props.get? Code.contentProp with
  | none => "<" ++ opening ++ " />"
  | some content => "<" ++ opening ++ ">" ++ Code.asContent (some content) ++ "</" ++ name ++ ">"

end Props

end PageCompiler
