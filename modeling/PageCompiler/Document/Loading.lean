/-
  Documents from data. Every field is checked on its own, in the order in which it is listed here,
  and only a document without any other issue is checked for keys that differ from their node's id.
-/
import PageCompiler.Checked
import PageCompiler.Document.Basic
import PageCompiler.Json.Reader
import PageCompiler.Text.Quoted

namespace PageCompiler

open Checked

namespace FieldName

def id : FieldName := ⟨"id", "id"⟩
def name : FieldName := ⟨"name", "name"⟩
def props : FieldName := ⟨"props", "props"⟩
def parentId : FieldName := ⟨"parentId", "parent_id"⟩
def parentProp : FieldName := ⟨"parentProp", "parent_prop"⟩
def parentIndex : FieldName := ⟨"parentIndex", "parent_index"⟩
def type : FieldName := ⟨"type", "type"⟩
def title : FieldName := ⟨"title", "title"⟩
def component : FieldName := ⟨"component", "component"⟩
def argTypes : FieldName := ⟨"argTypes", "arg_types"⟩
def value : FieldName := ⟨"value", "value"⟩
def format : FieldName := ⟨"format", "format"⟩
def nodes : FieldName := ⟨"nodes", "nodes"⟩

end FieldName

/-- An object of which only the type matters. -/
def checkType (origin : Origin) : Json → Checked Text :=
  model origin (required .type string)

namespace PropValue

/-- The shapes that are known by their tag. -/
inductive Shape where
  | const
  | binding
  | template
  | unrecognized
deriving DecidableEq, Repr

def Shape.tag : Shape → String
  | .const => "const"
  | .binding => "binding"
  | .template => "boundExpression"
  | .unrecognized => "unrecognized"

def Shape.ofTag (tag : Text) : Shape :=
  if tag = Shape.const.tag then .const
  else if tag = Shape.binding.tag then .binding
  else if tag = Shape.template.tag then .template
  else .unrecognized

def shapeOfTag : Option Json → Checked Shape
  | some (.str tag) => .accepted (.ofTag tag)
  | some (.arr _) => .aborted .array
  | some (.obj _) => .aborted .object
  | _ => .accepted .unrecognized

/-- The names of the fields of an object that keeps all of them, which have to be characters. -/
def checkNames (fields : List (Text × Json)) : Checked Unit :=
  match fields.find? fun field => !Text.isScalar field.1 with
  | some (name, _) => reject .nameUnreadable (.str name)
  | none => .accepted ()

def checkFields (shape : Shape) (fields : List (Text × Json)) : Checked PropValue :=
  match shape with
  | .const => const <$> withDefault .null .value any fields
  | .binding => binding <$> required .value string fields
  | .template =>
      template <$> required .value string fields
        <*> withDefault none .format (nullable string) fields
  | .unrecognized =>
      (fun _ tag value => unrecognized tag value) <$> checkNames fields
        <*> required .type string fields <*> withDefault .null .value any fields

def check (origin : Origin) (value : Json) : Checked PropValue :=
  (shapeOfTag (value.field? "type")).andThen fun shape =>
    (model origin (checkFields shape) value).within (.key shape.tag)

/-- The value of an object that can only be a constant. -/
def checkConst (origin : Origin) : Json → Checked Json :=
  model origin fun fields =>
    (fun _ value => value) <$> withDefault () .type (exactly Shape.const.tag) fields
      <*> withDefault .null .value any fields

end PropValue

namespace Node

/-- The fields of a node whose kind is known by its tag. -/
def checkFields (origin : Origin) (kind : List (Text × Json) → Checked NodeKind)
    (fields : List (Text × Json)) : Checked Node :=
  Node.mk <$> required .id string fields
    <*> required .name string fields
    <*> withDefault .empty .props (table (nullable (PropValue.check origin))) fields
    <*> withDefault none .parentId (nullable string) fields
    <*> withDefault none .parentProp (nullable string) fields
    <*> withDefault none .parentIndex (nullable string) fields
    <*> kind fields

def checkPage (fields : List (Text × Json)) : Checked NodeKind :=
  .page <$> withDefault [] .title string fields

def checkElement (fields : List (Text × Json)) : Checked NodeKind :=
  .element <$> required .component string fields

def checkDerived (origin : Origin) (fields : List (Text × Json)) : Checked NodeKind :=
  .derived <$> withDefault .empty .argTypes (table (checkType origin)) fields

/-- The kinds of nodes by their tags. -/
def kindChecks (origin : Origin) : List (String × (List (Text × Json) → Checked NodeKind)) := [
  ("page", checkPage), ("element", checkElement), ("derivedState", checkDerived origin)]

def check (origin : Origin) : Json → Checked Node
  | .obj fields =>
      match last? "type" fields with
      | none => reject .tagMissing (.obj fields)
      | some tag =>
          match (kindChecks origin).find? fun entry => tag.string? = some entry.1 with
          | some (name, kind) => (checkFields origin kind fields).within (.key name)
          | none => reject .tagUnknown (.obj fields)
  | value => reject origin.taggedIssue value

end Node

namespace Document

def misplacedMessage (key id : Text) : Text :=
  "Value error, Node stored under " ++ Text.quoted key ++ " has id " ++ Text.quoted id

/-- Refuses a document for the first node whose key is not its id. -/
def checkKeys (source : Json) (document : Document) : Checked Document :=
  match document.entries.find? fun entry => entry.1 ≠ entry.2.id with
  | some (key, node) => reject (.valueRefused (misplacedMessage key node.id)) source
  | none => .accepted document

def check (origin : Origin) (value : Json) : Checked Document :=
  (model origin (withDefault .empty .nodes (table (Node.check origin))) value).andThen
    (checkKeys value)

/-- Files have at most 200 containers in one another, not counting those without members, at most
    4300 digits before the point of a number, and no surrogates in strings. -/
def fileLimits : Json.Limits where
  depth := some 200
  countsEmpty := false
  digits := some 4300
  boundsDoubles := true
  allowsSurrogates := false

/-- Loads a document from the text of a file. -/
def ofText (text : Text) : Checked Document :=
  match Json.read fileLimits text with
  | .ok value => check .text value
  | .error _ => reject .textUnreadable (.str text)

/-- A document of nodes that are known by their ids; a later node replaces one with its id. -/
def ofNodes (nodes : List Node) : Document := .ofList (nodes.map fun node => (node.id, node))

end Document

end PageCompiler
