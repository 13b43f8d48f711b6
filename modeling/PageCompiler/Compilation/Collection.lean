/-
  Collection: finds every reference that a page needs and gives each the code that reads it.

  A reference to an element reads the state cell of the prop named by its first segment; one to a
  derived node reads its value, whose own references are then collected as well, once. All of this
  precedes rendering, because a node may refer to one that comes later.
-/
import PageCompiler.Compilation.Tables
import PageCompiler.Text.Split

namespace PageCompiler

/-- The references of a prop, in order. -/
def PropValue.references : PropValue → Except Failure (List Text)
  | .binding reference => .ok [reference]
  | .template text _ =>
      match Template.parse text with
      | .ok parts => .ok (Template.references parts)
      | .error error => .error (.template error)
  | _ => .ok []

namespace Collection

/-- Code that follows a path from an identifier. -/
def accessor (identifier : Text) (path : List Text) : Text :=
  List.intercalate "." (identifier :: path)

/-- The constant a document gives for a prop. -/
def authoredConstant? (node : Node) (prop : Text) : Option Json :=
  match node.props.get? prop with
  | some (some (.const value)) => some value
  | _ => none

/-- The argument of an element that can be bound to. -/
def controlledArgument (env : Environment) (node : Node) (prop : Text) :
    Except Failure Argument :=
  match env.component? node with
  | none => .error (.componentMissing node.id)
  | some component =>
      match if prop = [] then none else (component.arguments.get? prop).join with
      | none => .error (.argumentMissing node.name prop)
      | some argument =>
          if argument.isControlled then .ok argument
          else .error (.argumentUncontrolled node.name prop)

/-- The code that reads a path of an element: the first segment names the prop. -/
def elementAccessor (env : Environment) (node : Node) (path : List Text) : Compile Text := do
  let prop := path.headD []
  match (← get).cell? node.id prop with
  | some cell => return accessor cell.state path.tail
  | none =>
      let argument ← Compile.ofExcept (controlledArgument env node prop)
      let cell ← Compile.addCell node.id node.name prop argument (authoredConstant? node prop)
      return accessor cell.state path.tail

/-- Collects the references of one node's props with the given rule. -/
def collectProps (collect : Text → Compile Unit) (node : Node) : Compile Unit :=
  node.props.values.forM fun prop =>
    match prop with
    | none => pure ()
    | some value => do
        let references ← Compile.ofExcept value.references
        references.forM collect

/-- Collects one reference that stands in a prop of `owner`. Each level of nesting gives a name to
    one more derived node of the document, so `fuel` is never used up. -/
def collectReference (env : Environment) : Nat → Option Node → Text → Compile Unit
  | 0, _, _ => throw .endless
  | fuel + 1, owner, reference => do
      let segments := Text.segments reference
      let name := segments.headD []
      let path := segments.tail
      match env.snapshot.idOfName? name with
      | none => Compile.warn (.nameUnknown name)
      | some id =>
          let node ← Compile.ofExcept (env.document.node id)
          match node.kind with
          | .page _ => Compile.warn (.pageReferenced name reference)
          | .element _ =>
              let code ← elementAccessor env node path
              Compile.setAccessor reference code
          | .derived _ =>
              let (identifier, isNew) ← Compile.addDerived node
              if isNew then
                collectProps (fun inner => collectReference env fuel (some node) inner) node
              match owner with
              | some owner =>
                  if owner.isDerived then Compile.addDependency owner.id node.id
              | none => pure ()
              Compile.setAccessor reference (accessor identifier path)

/-- More than the number of derived nodes that can be nested. -/
def nestingBound (env : Environment) : Nat := env.document.size + 1

def collect (env : Environment) (owner : Option Node) (reference : Text) : Compile Unit :=
  collectReference env (nestingBound env) owner reference

def collectNode (env : Environment) (node : Node) : Compile Unit :=
  collectProps (collect env (some node)) node

/-- Collects the references of all nodes below the page. -/
def collectPage (env : Environment) : Compile Unit :=
  match env.snapshot.descendants? env.page with
  | none => throw .endless
  | some nodes => nodes.forM (collectNode env)

end Collection

end PageCompiler
