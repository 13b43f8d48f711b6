/-
  What one compile works with and what it builds up.

  An `Environment` is fixed while a page is compiled. The `Tables` hold what the generated module
  declares: its names, imports, state cells, derived values and data loaders, and for each reference
  the code that reads it. Every name comes from one scope, and asking twice for the same thing gives
  the same name.
-/
import PageCompiler.Component.Builtin
import PageCompiler.Document.Snapshot
import PageCompiler.Failure

namespace PageCompiler

/-- The state behind one prop of one element. -/
structure Cell where
  nodeId : Text
  prop : Text
  state : Text
  setter : Text
  /-- The value the state starts from, if there is one. -/
  initial : Option Json

structure Tables where
  scope : Scope
  imports : ImportTable
  /-- Cells by node id and prop, joined by a dot. -/
  cells : Table Cell
  /-- Identifiers of derived values by node id. -/
  derived : Table Text
  /-- For each derived node, the derived nodes that its props refer to. -/
  dependencies : Table (List Text)
  /-- The code that reads a reference. -/
  accessors : Table Text
  /-- Variables of data loaders by query. -/
  loaders : Table Text
  warnings : List Warning

def Tables.empty : Tables := ⟨.empty, .empty, .empty, .empty, .empty, .empty, .empty, []⟩

structure Environment where
  document : Document
  page : Node
  catalog : Catalog
  editor : Bool
  /-- The document's nodes as they were when the compile started. -/
  snapshot : Snapshot
  reactName : Text
  runtimeName : Text
  appName : Text

/-- A step of a compile. Tables that a failing step has changed stay changed. -/
abbrev Compile := EStateM Failure Tables

namespace Compile

def ofExcept {α : Type} : Except Failure α → Compile α
  | .ok value => pure value
  | .error failure => throw failure

def warn (warning : Warning) : Compile Unit :=
  modify fun tables => { tables with warnings := tables.warnings ++ [warning] }

/-- Takes a name for the module. -/
def allocate (suggestion : Text) : Compile Text :=
  modifyGet fun tables =>
    let (name, scope) := tables.scope.allocate suggestion
    (name, { tables with scope })

def addImport (source symbol : Text) (suggestion : Option Text) : Compile Text := do
  let tables ← get
  match tables.imports.add tables.scope source symbol suggestion with
  | .ok (name, imports, scope) =>
      set { tables with imports, scope }
      return name
  | .error misuse => throw (.imports misuse)

/-- The variable that holds the result of a query. -/
def useLoader (query : Text) : Compile Text := do
  match (← get).loaders.get? query with
  | some result => return result
  | none =>
      let result ← allocate query
      modify fun tables => { tables with loaders := tables.loaders.insert query result }
      return result

end Compile

/-- The key of a cell. -/
def cellKey (nodeId prop : Text) : Text := nodeId ++ "." ++ prop

def Tables.cell? (tables : Tables) (nodeId prop : Text) : Option Cell :=
  tables.cells.get? (cellKey nodeId prop)

namespace Compile

/-- The cell of a node's prop. A new cell starts from the constant given here, or else from the
    declared default. -/
def addCell (nodeId nodeName prop : Text) (argument : Argument) (constant : Option Json) :
    Compile Cell := do
  match (← get).cell? nodeId prop with
  | some cell => return cell
  | none =>
      let state ← allocate (Identifier.camelCase [nodeName, prop])
      let setter ← allocate (Identifier.camelCase ["set", nodeName, prop])
      let cell : Cell := ⟨nodeId, prop, state, setter, constant.or argument.defaultValue⟩
      modify fun tables => { tables with cells := tables.cells.insert (cellKey nodeId prop) cell }
      return cell

/-- The identifier of a derived node's value, and whether it is new. -/
def addDerived (node : Node) : Compile (Text × Bool) := do
  match (← get).derived.get? node.id with
  | some identifier => return (identifier, false)
  | none =>
      let identifier ← allocate node.name
      modify fun tables =>
        { tables with
          derived := tables.derived.insert node.id identifier
          dependencies :=
            if tables.dependencies.contains node.id then tables.dependencies
            else tables.dependencies.insert node.id [] }
      return (identifier, true)

/-- Notes that one derived node refers to another. -/
def addDependency (nodeId dependencyId : Text) : Compile Unit :=
  modify fun tables =>
    let known := (tables.dependencies.get? nodeId).getD []
    let extended := if dependencyId ∈ known then known else known ++ [dependencyId]
    { tables with dependencies := tables.dependencies.insert nodeId extended }

def setAccessor (reference accessor : Text) : Compile Unit :=
  modify fun tables => { tables with accessors := tables.accessors.insert reference accessor }

end Compile

namespace Environment

/-- The component that renders a node. Pages share one; derived nodes have none. -/
def component? (env : Environment) (node : Node) : Option Component :=
  match node.kind with
  | .page _ => env.catalog.get? Component.pageName
  | .element component => env.catalog.get? component
  | .derived _ => none

/-- The declared props of a node and their types. -/
def propTypes (env : Environment) (node : Node) : Table Text :=
  match node.kind with
  | .derived arguments => arguments
  | _ =>
      match env.component? node with
      | none => .empty
      | some component =>
          .ofList (component.arguments.entries.filterMap fun entry =>
            entry.2.map fun argument => (entry.1, argument.valueType))

def reactModule : Text := "react"

def runtimeModule : Text := "@mui/studio-core/runtime"

/-- Starts a compile of a page: takes the names that every module needs. -/
def start (document : Document) (catalog : Catalog) (editor : Bool) (page : Node) :
    Except Failure (Environment × Tables) :=
  let names : Compile (Text × Text × Text) := do
    let react ← Compile.addImport reactModule ImportTable.defaultSymbol (some "React")
    let runtime ←
      if editor then
        Compile.addImport runtimeModule ImportTable.wholeSymbol (some "__studioRuntime")
      else pure Code.undefinedText
    let app ← Compile.allocate "App"
    return (react, runtime, app)
  match names.run .empty with
  | .ok (react, runtime, app) tables =>
      .ok (⟨document, page, catalog, editor, document.snapshot, react, runtime, app⟩, tables)
  | .error failure _ => .error failure

end Environment

end PageCompiler
