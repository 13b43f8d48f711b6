/-
  The declarations of a module's body: state, derived values and data loaders.
-/
import PageCompiler.Compilation.DerivedOrder
import PageCompiler.Compilation.Markup

namespace PageCompiler.Declarations

/-- The line that declares a cell. -/
def stateLine (env : Environment) (cell : Cell) : Text :=
  let initial := match cell.initial with
    | some value => value.literal
    | none => Code.undefinedText
  "const [" ++ cell.state ++ ", " ++ cell.setter ++ "] = " ++ env.reactName ++ ".useState("
    ++ initial ++ ");"

def stateLines (env : Environment) (tables : Tables) : List Text :=
  tables.cells.values.map (stateLine env)

/-- The ids of the derived nodes in the order of their declarations. A cycle is reported by the
    names of its nodes. -/
def derivedOrder (env : Environment) (tables : Tables) : Except Failure (List Text) :=
  match DerivedOrder.order tables.derived.keys tables.dependencies with
  | .ok ids => .ok ids
  | .error cycle =>
      match cycle.mapM fun id => (env.document.node id).map (·.name) with
      | .ok names => .error (.derivedCycle names)
      | .error failure => .error failure

/-- The module that computes a derived node's value. -/
def derivedModule (nodeId : Text) : Text := "../derivedState/" ++ nodeId ++ ".ts"

/-- The line that declares a derived value. -/
def derivedLine (env : Environment) (id : Text) : Compile Text := do
  let node ← Compile.ofExcept (env.document.node id >>= Node.requireDerived)
  let props := (← ResolvedProps.resolve env node .empty).erase Code.spreadProp
  let reads := props.values.map fun code => Code.asExpression (some code)
  let getter ← Compile.addImport (derivedModule node.id) ImportTable.defaultSymbol
    (some (Identifier.camelCase [node.name, "getter"]))
  match (← get).derived.get? id with
  | none => throw (.derivedUnnamed id)
  | some identifier =>
      return "const " ++ identifier ++ " = " ++ env.reactName ++ ".useMemo(() => " ++ getter ++ "("
        ++ Props.objectLiteral props ++ "), [" ++ List.intercalate ", " reads ++ "]);"

def derivedLines (env : Environment) : Compile (List Text) := do
  let ids ← Compile.ofExcept (derivedOrder env (← get))
  ids.mapM (derivedLine env)

def queryModule : Text := "@mui/studio-core"

def queryHook : Text := "useDataQuery"

def loaderLines : Compile (List Text) := do
  if (← get).loaders.entries.isEmpty then return []
  let hook ← Compile.addImport queryModule queryHook (some queryHook)
  return (← get).loaders.entries.map fun entry =>
    "const " ++ entry.2 ++ " = " ++ hook ++ "(" ++ Json.stringLiteral entry.1 ++ ");"

end PageCompiler.Declarations
