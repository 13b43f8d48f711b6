/-
  Why a compile fails, and what its warnings say.
-/
import PageCompiler.Document.Basic
import PageCompiler.ImportTable
import PageCompiler.TemplateCode

namespace PageCompiler

inductive Failure where
  | template (error : TemplateError)
  | format (error : FormatError)
  | imports (error : ImportMisuse)
  /-- A reference to an element whose component is not in the catalog. -/
  | componentMissing (nodeId : Text)
  /-- A reference to an argument that the component does not declare. -/
  | argumentMissing (nodeName prop : Text)
  /-- A reference to an argument whose changes the component does not report. -/
  | argumentUncontrolled (nodeName prop : Text)
  /-- A query that is not a constant. -/
  | queryBound (nodeName prop : Text)
  /-- Derived nodes that need each other, by name, the first one again at the end. -/
  | derivedCycle (names : List Text)
  | nodeMissing (id : Text)
  | nodeKind (id expected actual : Text)
  /-- No node where one is needed. -/
  | nodeAbsent
  /-- A derived node that is needed and was never given an identifier. -/
  | derivedUnnamed (id : Text)
  /-- A node below itself, so that a walk down never ends. -/
  | endless
deriving DecidableEq, Repr

def Failure.message : Failure → Text
  | .template error => error.message
  | .format error => error.message
  | .imports error => error.message
  | .componentMissing nodeId => "Can't find component for node \x22" ++ nodeId ++ "\x22"
  | .argumentMissing nodeName prop =>
      "Can't find argType for \x22" ++ nodeName ++ "." ++ prop ++ "\x22"
  | .argumentUncontrolled nodeName prop =>
      "\x22" ++ nodeName ++ "." ++ prop ++ "\x22 is not a controlled property"
  | .queryBound nodeName prop =>
      "Binding query property \x22" ++ nodeName ++ "." ++ prop ++ "\x22 is not supported yet"
  | .derivedCycle names => "Derived state cycle: " ++ List.intercalate " -> " names
  | .nodeMissing id => "Node not found: " ++ Text.quoted id
  | .nodeKind id expected actual =>
      "Expected node \x22" ++ id ++ "\x22 to be of type \x22" ++ expected
        ++ "\x22, got \x22" ++ actual ++ "\x22"
  | .nodeAbsent => "Unknown node type: NoneType"
  | .derivedUnnamed id => Text.quoted id
  | .endless => "Node placed below itself"

/-- What a compile reports and goes on after. -/
inductive Warning where
  | nameUnknown (name : Text)
  | pageReferenced (name reference : Text)
  | tagUnknown (tag nodeName prop : Text)
deriving DecidableEq, Repr

def Warning.message : Warning → Text
  | .nameUnknown name => "Can't find node with name \x22" ++ name ++ "\x22"
  | .pageReferenced name reference =>
      "Can't bind to page \x22" ++ name ++ "\x22 in \x22" ++ reference ++ "\x22"
  | .tagUnknown tag nodeName prop =>
      "Unknown prop type \x22" ++ tag ++ "\x22 for \x22" ++ nodeName ++ "." ++ prop
        ++ "\x22, omitting it"

namespace Document

def node (document : Document) (id : Text) : Except Failure Node :=
  match document.get? id with
  | some node => .ok node
  | none => .error (.nodeMissing id)

end Document

namespace Node

def requirePage (node : Node) : Except Failure Node :=
  if node.isPage then .ok node else .error (.nodeKind node.id "page" node.kind.tag)

def requireElement (node : Node) : Except Failure Node :=
  if node.isElement then .ok node else .error (.nodeKind node.id "element" node.kind.tag)

def requireDerived (node : Node) : Except Failure Node :=
  if node.isDerived then .ok node else .error (.nodeKind node.id "derivedState" node.kind.tag)

end Node

end PageCompiler
