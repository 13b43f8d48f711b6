/-
  Documents: nodes in order, each known by its id. Pages and elements form trees through the
  places they name; derived nodes compute a value from their props and are found by name.
-/
import PageCompiler.Json.Basic

namespace PageCompiler

/-- What a document says about one prop. -/
inductive PropValue where
  /-- A constant. -/
  | const (value : Json)
  /-- A reference to another node's value. -/
  | binding (reference : Text)
  /-- A template, and how it is to be written. -/
  | template (text : Text) (format : Option Text)
  /-- Anything else; it is left out of the generated code. -/
  | unrecognized (tag : Text) (value : Json)

inductive NodeKind where
  /-- The root of a tree. -/
  | page (title : Text)
  /-- A use of a component. -/
  | element (component : Text)
  /-- A computed value, with the types of its arguments. -/
  | derived (arguments : Table Text)
deriving DecidableEq

structure Node where
  id : Text
  name : Text
  props : Table (Option PropValue)
  /-- The node below which this one is placed. -/
  parentId : Option Text
  /-- The slot of the parent; the content slot if there is none. -/
  parentProp : Option Text
  /-- The place among the children of the slot. -/
  parentIndex : Option Text
  kind : NodeKind

/-- Nodes by key. In a loaded document every key is the id of its node. -/
abbrev Document := Table Node

def NodeKind.tag : NodeKind → Text
  | .page _ => "page"
  | .element _ => "element"
  | .derived _ => "derivedState"

def PropValue.tag : PropValue → Text
  | .const _ => "const"
  | .binding _ => "binding"
  | .template _ _ => "boundExpression"
  | .unrecognized tag _ => tag

namespace Node

def isPage (node : Node) : Bool := node.kind matches .page _

def isElement (node : Node) : Bool := node.kind matches .element _

def isDerived (node : Node) : Bool := node.kind matches .derived _

/-- The slot of pages, and of children that name none. -/
def contentSlot : Text := "children"

/-- The slot in which a node is placed. -/
def slot (node : Node) : Text :=
  match node.parentProp with
  | none | some [] => contentSlot
  | some name => name

end Node

end PageCompiler
