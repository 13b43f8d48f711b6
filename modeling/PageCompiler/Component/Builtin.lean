/-
  The components that are always at hand.
-/
import PageCompiler.Component.Basic

namespace PageCompiler

namespace Component

def materialModule : Text := "@mui/material"

def dataGridModule : Text := "@mui/x-data-grid"

/-- An argument without default or change prop. -/
def plain (valueType : Text) : Argument := ⟨valueType, none, none, none, none, none⟩

def withDefaultValue (valueType : Text) (value : Json) : Argument :=
  { plain valueType with defaultValue := some value }

/-- An argument that holds any number of child elements. -/
def manyChildren : Argument := { plain "element" with control := some "slots" }

/-- An argument that holds one child element. -/
def oneChild : Argument := { plain "element" with control := some "slot" }

/-- A text that the user edits. -/
def editedText : Argument :=
  { withDefaultValue "string" (.str "") with
    changeProp := some "onChange"
    changeHandler := some ⟨["event"], "event.target.value"⟩ }

/-- Goes on with the alias of a symbol that is suggested under its own name. -/
def importing (source symbol : Text) (next : Text → RenderScript) : RenderScript :=
  .importing source symbol (some symbol) next

/-- Renders all props on an imported component. -/
def renderAs (symbol : Text) (props : Props) : RenderScript :=
  importing materialModule symbol fun name => .done (Props.element name props)

/-- Moves a prop to the content of the element. -/
def asContent (prop : Text) (props : Props) : Props :=
  match props.get? prop with
  | none => props
  | some value => (props.erase prop).insert Code.contentProp value

def renderSelect (props : Props) : RenderScript :=
  importing materialModule "TextField" fun textField =>
    importing materialModule "MenuItem" fun menuItem =>
      let options := Code.asExpression (props.get? "options")
      let items := "\x7b(" ++ options ++ " ?? []).map((option) => <" ++ menuItem
        ++ " key=\x7boption\x7d value=\x7boption\x7d>\x7boption\x7d</" ++ menuItem ++ ">)\x7d"
      let props := (props.erase "options").insert "select" (.expression "true")
      .done (Props.element textField (props.insert Code.contentProp ⟨.fragment, items⟩))

def renderDataGrid (props : Props) : RenderScript :=
  importing dataGridModule "DataGrid" fun name =>
    .done ("<div style=\x7b\x7b height: 350, width: \x22100%\x22 \x7d\x7d>"
      ++ Props.element name props ++ "</div>")

/-- A component with the given arguments, all of them declared. -/
def declare (description : Text) (arguments : List (Text × Argument))
    (render : Props → RenderScript) : Component where
  arguments := .ofList (arguments.map fun entry => (entry.1, some entry.2))
  render
  description

def page : Component :=
  declare "Page root container" [("children", manyChildren)] (renderAs "Container")

def stack : Component :=
  declare "One-dimensional layout" [
    ("direction", withDefaultValue "string" (.str "column")),
    ("gap", withDefaultValue "number" (.int 2)),
    ("alignItems", plain "string"),
    ("children", manyChildren)] (renderAs "Stack")

def paper : Component :=
  declare "Surface holding a single child" [
    ("elevation", withDefaultValue "number" (.int 1)),
    ("children", oneChild)] (renderAs "Paper")

def button : Component :=
  declare "Clickable button" [
    ("label", withDefaultValue "string" (.str "Button text")),
    ("variant", withDefaultValue "string" (.str "contained")),
    ("fullWidth", plain "boolean"),
    ("disabled", plain "boolean")] fun props => renderAs "Button" (asContent "label" props)

def textField : Component :=
  declare "Text input" [
    ("value", editedText),
    ("label", plain "string"),
    ("variant", withDefaultValue "string" (.str "outlined")),
    ("fullWidth", plain "boolean")] (renderAs "TextField")

def select : Component :=
  declare "Dropdown picking one of a list of options" [
    ("value", editedText),
    ("label", plain "string"),
    ("options", withDefaultValue "array" (.arr [])),
    ("fullWidth", plain "boolean")] renderSelect

def typography : Component :=
  declare "Text" [
    ("value",
      { withDefaultValue "string" (.str "") with defaultProp := some "children" }),
    ("variant", withDefaultValue "string" (.str "body1"))]
    fun props => renderAs "Typography" (asContent "value" props)

def dataGrid : Component :=
  declare "Table of rows loaded from a data query" [
    ("dataQuery", plain "dataQuery"),
    ("rows", plain "array"),
    ("columns", plain "array"),
    ("density", withDefaultValue "string" (.str "compact"))] renderDataGrid

/-- The name of the component that renders pages. -/
def pageName : Text := "Page"

end Component

def Catalog.builtin : Catalog := .ofList [
  (Component.pageName, Component.page),
  ("Stack", Component.stack),
  ("Paper", Component.paper),
  ("Button", Component.button),
  ("TextField", Component.textField),
  ("Select", Component.select),
  ("Typography", Component.typography),
  ("DataGrid", Component.dataGrid)]

end PageCompiler
