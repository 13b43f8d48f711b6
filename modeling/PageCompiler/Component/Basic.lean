/-
  Components: the arguments an element of that kind takes, and how it is rendered.

  A component renders resolved props to markup. The one thing it may do besides is to ask for
  imports, each time going on with the alias it is given, so rendering is a script of such requests
  that ends in a text.
-/
import PageCompiler.Code
import PageCompiler.Json.Basic

namespace PageCompiler

/-- How the new value is taken from a change event. -/
structure ChangeHandler where
  params : List Text
  valueGetter : Text
deriving DecidableEq, Repr

structure Argument where
  valueType : Text
  /-- The declared default, which may be null. -/
  defaultValue : Option Json
  /-- The prop that takes the default instead of this argument. -/
  defaultProp : Option Text
  /-- The prop through which changes are reported; only with one can the argument be bound to. -/
  changeProp : Option Text
  changeHandler : Option ChangeHandler
  control : Option Text

def Argument.isControlled (argument : Argument) : Bool := argument.changeProp.isSome

inductive RenderScript where
  | done (text : Text)
  | importing (source symbol : Text) (suggestion : Option Text) (next : Text → RenderScript)

structure Component where
  arguments : Table (Option Argument)
  render : Props → RenderScript
  description : Text

/-- Components by name. -/
abbrev Catalog := Table Component

end PageCompiler
