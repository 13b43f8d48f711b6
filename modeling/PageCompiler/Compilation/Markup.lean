/-
  Markup of a node: its children are rendered first, then its props are resolved around them, then
  its component writes the element. For the editor every element and every slot is wrapped in a
  marker that names it.
-/
import PageCompiler.Compilation.ResolvedProps

namespace PageCompiler.Markup

/-- Runs a component's script. -/
def runScript : RenderScript → Compile Text
  | .done text => pure text
  | .importing source symbol suggestion next => do
      let name ← Compile.addImport source symbol suggestion
      runScript (next name)

/-- Content between the tags of an element with one attribute. -/
def wrap (tag attributeName value content : Text) : Text :=
  "<" ++ tag ++ " " ++ attributeName ++ "=" ++ Json.stringLiteral value ++ ">" ++ content
    ++ "</" ++ tag ++ ">"

/-- The marker of an element's slot, by the control of its argument. -/
def slotMarker? (argument : Argument) : Option Text :=
  if argument.valueType ≠ "element" then none
  else if argument.control = some "slots" then some "Slots"
  else if argument.control = some "slot" then some "Placeholder"
  else none

/-- Wraps the slots that a component declares, the empty ones too. -/
def markSlots (env : Environment) (component : Component) (props : Props) : Props :=
  component.arguments.entries.foldl (fun props entry =>
    match entry.2.bind slotMarker? with
    | none => props
    | some marker =>
        let content := Code.asContent (props.get? entry.1)
        props.insert entry.1
          ⟨.element, wrap (env.runtimeName ++ "." ++ marker) "prop" entry.1 content⟩) props

/-- The code of one slot: a single child as it is, several as a fragment. -/
def slotCode (render : Node → Compile Code) : List Node → Compile (Option Code)
  | [] => return none
  | [child] => return some (← render child)
  | children => do
      let codes ← children.mapM render
      let contents := codes.map fun code => Code.asContent (some code)
      return some ⟨.fragment, List.intercalate "\n" contents⟩

/-- The child content of a node by slot. -/
def renderSlots (env : Environment) (render : Node → Compile Code) (node : Node) :
    Compile Props := do
  let props ← (env.snapshot.children node).foldlM (fun (props : Props) entry => do
    match ← slotCode render entry.2 with
    | none => return props
    | some code => return props.insert entry.1 code) .empty
  match env.editor, env.component? node with
  | true, some component => return markSlots env component props
  | _, _ => return props

/-- Renders a node and what is below it, down to a depth of less than `fuel`. A node without a
    component renders as null. -/
def renderWithin (env : Environment) : Nat → Node → Compile Code
  | 0, _ => throw .endless
  | fuel + 1, node =>
      match env.component? node with
      | none => return .expression "null"
      | some component => do
          let slots ← renderSlots env (fun child => renderWithin env fuel child) node
          let props ← ResolvedProps.resolve env node slots
          let text ← runScript (component.render props)
          if env.editor then
            return ⟨.element, wrap (env.runtimeName ++ ".RuntimeStudioNode") "nodeId" node.id text⟩
          else return ⟨.element, text⟩

def renderNode (env : Environment) (node : Node) : Compile Code :=
  renderWithin env env.snapshot.depthBound node

def renderChildren (env : Environment) (node : Node) : Compile Props :=
  renderSlots env (renderNode env) node

/-- The page as an expression. -/
def renderRoot (env : Environment) : Compile Text :=
  return Code.asExpression (some (← renderNode env env.page))

end PageCompiler.Markup
