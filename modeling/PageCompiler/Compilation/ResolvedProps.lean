/-
  The props a node is rendered with. Child content comes first; then come the props that the document
  gives, the state behind bound props with its setters, and the declared defaults of what is still
  open.
-/
import PageCompiler.Compilation.Collection
import PageCompiler.Json.Printer

namespace PageCompiler.ResolvedProps

/-- The type of props that name a data query. -/
def queryType : Text := "dataQuery"

def constant (value : Json) : Code := .expression value.literal

/-- Adds to the spread attributes. -/
def appendSpread (props : Props) (spread : Text) : Props :=
  let text := match props.get? Code.spreadProp with
    | some code => code.text ++ " " ++ spread
    | none => spread
  props.insert Code.spreadProp (.expression text)

/-- The code that reads a reference; one that was not collected, or has no code, is undefined. -/
def readReference (tables : Tables) (reference : Text) : Text :=
  match tables.accessors.get? reference with
  | none | some [] => Code.undefinedText
  | some code => code

def templateCode (tables : Tables) (text : Text) (format : Option Text) :
    Except Failure Text :=
  match Template.parse text with
  | .error error => .error (.template error)
  | .ok parts =>
      match Template.format format (Template.resolve (some ∘ readReference tables) parts) with
      | .ok code => .ok code
      | .error error => .error (.format error)

/-- Resolves one prop that the document gives and the node declares. -/
def addAuthored (node : Node) (props : Props) (name valueType : Text) (value : PropValue) :
    Compile Props := do
  if valueType = queryType then
    match value with
    | .const (.str query) =>
        if query = [] then return props
        let result ← Compile.useLoader query
        return appendSpread props ("\x7b..." ++ result ++ "\x7d")
    | .const _ => return props
    | _ => throw (.queryBound node.name name)
  else
    match value with
    | .const value => return props.insert name (constant value)
    | .template text format =>
        let code ← Compile.ofExcept (templateCode (← get) text format)
        return props.insert name (.expression code)
    | .binding reference =>
        return props.insert name (.expression (readReference (← get) reference))
    | .unrecognized tag _ =>
        Compile.warn (.tagUnknown tag node.name name)
        return props

/-- Resolves one prop of the document, unless it is null, not declared or already there. -/
def addEntry (node : Node) (types : Table Text) (props : Props)
    (entry : Text × Option PropValue) : Compile Props :=
  match types.get? entry.1, entry.2 with
  | some valueType, some value =>
      if props.contains entry.1 then pure props
      else addAuthored node props entry.1 valueType value
  | _, _ => pure props

def addAllAuthored (env : Environment) (node : Node) (seed : Props) : Compile Props :=
  node.props.entries.foldlM (addEntry node (env.propTypes node)) seed

/-- The code that writes a changed value to a cell. -/
def setterCode (argument : Argument) (cell : Cell) : Text :=
  match argument.changeHandler with
  | some handler =>
      "(" ++ List.intercalate ", " handler.params ++ ") => " ++ cell.setter ++ "("
        ++ handler.valueGetter ++ ")"
  | none => cell.setter

/-- Lets an argument read its cell, and its change prop write it. -/
def wireCell (props : Props) (name : Text) (argument : Argument) (cell : Cell) : Props :=
  let props := props.insert name (.expression cell.state)
  match argument.changeProp with
  | none | some [] => props
  | some changeProp => props.insert changeProp (.expression (setterCode argument cell))

def addCells (tables : Tables) (node : Node) (component : Component) (seed props : Props) : Props :=
  component.arguments.entries.foldl (fun props entry =>
    match entry.2 with
    | none => props
    | some argument =>
        if seed.contains entry.1 then props
        else
          match tables.cell? node.id entry.1 with
          | none => props
          | some cell => wireCell props entry.1 argument cell) props

/-- The prop that takes the default of an argument. -/
def defaultTarget (name : Text) (argument : Argument) : Text :=
  match argument.defaultProp with
  | none | some [] => name
  | some target => target

def addDefaults (component : Component) (props : Props) : Props :=
  component.arguments.entries.foldl (fun props entry =>
    match entry.2 with
    | none => props
    | some argument =>
        match argument.defaultValue with
        | none => props
        | some value =>
            let target := defaultTarget entry.1 argument
            if props.contains entry.1 || props.contains target then props
            else props.insert target (constant value)) props

/-- The props of a node whose child content is already rendered. -/
def resolve (env : Environment) (node : Node) (seed : Props) : Compile Props := do
  let props ← addAllAuthored env node seed
  match env.component? node with
  | none => return props
  | some component =>
      return addDefaults component (addCells (← get) node component seed props)

end PageCompiler.ResolvedProps
