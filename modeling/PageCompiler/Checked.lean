/-
  Checks of data against an expected shape.

  A check accepts a value or lists every issue it finds, each with the path to where it is and the
  data that it is about. The parts of a value are checked independently and their issues stand one
  after the other. One fault ends a check at once and leaves no list: a tag that cannot be compared
  because it is itself an array or an object.

  Data from a file may repeat the name of a field. Of fixed fields only the last value is looked at;
  in a table all of them are checked, and then the last one stays.
-/
import PageCompiler.Json.Basic

namespace PageCompiler

inductive IssueKind where
  | missing
  | stringExpected
  | objectExpected
  | modelExpected
  | attributesExpected
  | listExpected
  | tagMissing
  | tagUnknown
  | literalExpected
  | booleanUnreadable
  | booleanExpected
  | textUnreadable
  | nameUnreadable
  | valueRefused (reason : Text)
deriving DecidableEq, Repr

/-- The code by which an issue is reported. -/
def IssueKind.code : IssueKind → String
  | .missing => "missing"
  | .stringExpected => "string_type"
  | .objectExpected => "dict_type"
  | .modelExpected => "model_type"
  | .attributesExpected => "model_attributes_type"
  | .listExpected => "list_type"
  | .tagMissing => "union_tag_not_found"
  | .tagUnknown => "union_tag_invalid"
  | .literalExpected => "literal_error"
  | .booleanUnreadable => "bool_parsing"
  | .booleanExpected => "bool_type"
  | .textUnreadable => "json_invalid"
  | .nameUnreadable => "string_unicode"
  | .valueRefused _ => "value_error"

/-- A step to where an issue is, as reports show it. -/
inductive PathStep where
  | key (name : String)
  | index (position : Nat)
deriving DecidableEq, Repr

structure Issue where
  kind : IssueKind
  path : List PathStep
  /-- The value that is at fault; for a missing field the object that lacks it. -/
  input : Json
deriving Repr

/-- A tag that is an array or an object. -/
inductive CompoundTag where
  | array
  | object
deriving DecidableEq, Repr

def CompoundTag.message : CompoundTag → String
  | .array => "unhashable type: 'list'"
  | .object => "unhashable type: 'dict'"

inductive Checked (α : Type) where
  | accepted (value : α)
  | rejected (issues : List Issue)
  | aborted (cause : CompoundTag)
deriving Inhabited

namespace Checked

variable {α β : Type}

def map (f : α → β) : Checked α → Checked β
  | .accepted value => .accepted (f value)
  | .rejected issues => .rejected issues
  | .aborted cause => .aborted cause

/-- Two independent checks: the first cause of an end wins, and issues are listed in order. -/
def both (left : Checked α) (right : Checked β) : Checked (α × β) :=
  match left, right with
  | .aborted cause, _ => .aborted cause
  | _, .aborted cause => .aborted cause
  | .rejected first, .rejected second => .rejected (first ++ second)
  | .rejected issues, .accepted _ => .rejected issues
  | .accepted _, .rejected issues => .rejected issues
  | .accepted first, .accepted second => .accepted (first, second)

instance : Applicative Checked where
  pure := .accepted
  map := map
  seq f x := (both f (x ())).map fun pair => pair.1 pair.2

/-- A check of what another check accepted. -/
def andThen (checked : Checked α) (next : α → Checked β) : Checked β :=
  match checked with
  | .accepted value => next value
  | .rejected issues => .rejected issues
  | .aborted cause => .aborted cause

def reject (kind : IssueKind) (input : Json) : Checked α := .rejected [⟨kind, [], input⟩]

/-- Places the issues of a check one step deeper. -/
def within (step : PathStep) : Checked α → Checked α
  | .rejected issues =>
      .rejected (issues.map fun issue => { issue with path := step :: issue.path })
  | checked => checked

/-- Independent checks of all members of a list. -/
def all : List (Checked α) → Checked (List α)
  | [] => .accepted []
  | checked :: rest => (both checked (all rest)).map fun pair => pair.1 :: pair.2

end Checked

/-- Where data comes from, which decides how a value that is no object is reported. -/
inductive Origin where
  /-- A value in memory. -/
  | memory
  /-- The text of a file. -/
  | text
  /-- The body of a request. -/
  | request
deriving DecidableEq, Repr

/-- The issue of a value that should be an object with fixed fields. -/
def Origin.modelIssue : Origin → IssueKind
  | .request => .attributesExpected
  | _ => .modelExpected

/-- The issue of a value that should be an object chosen by its tag. -/
def Origin.taggedIssue : Origin → IssueKind
  | .text => .objectExpected
  | _ => .attributesExpected

/-- A field's name, and the other spelling under which it is found as well. -/
structure FieldName where
  main : String
  other : String
deriving DecidableEq, Repr

namespace Checked

variable {α : Type}

/-- The value of a field under the spelling that is present, the main one first. -/
def findField (fields : List (Text × Json)) (name : FieldName) : Option (String × Json) :=
  match last? name.main fields with
  | some value => some (name.main, value)
  | none => (last? name.other fields).map (name.other, ·)

def fieldOr (absent : Checked α) (name : FieldName) (check : Json → Checked α)
    (fields : List (Text × Json)) : Checked α :=
  match findField fields name with
  | some (spelling, value) => (check value).within (.key spelling)
  | none => absent

/-- A field that has to be present. -/
def required (name : FieldName) (check : Json → Checked α) (fields : List (Text × Json)) :
    Checked α :=
  fieldOr ((reject .missing (.obj fields)).within (.key name.main)) name check fields

/-- A field that stands for `value` when it is absent. -/
def withDefault (value : α) (name : FieldName) (check : Json → Checked α)
    (fields : List (Text × Json)) : Checked α :=
  fieldOr (.accepted value) name check fields

def string : Json → Checked Text
  | .str value => .accepted value
  | value => reject .stringExpected value

/-- One text and no other. -/
def exactly (text : Text) : Json → Checked Unit
  | .str value => if value = text then .accepted () else reject .literalExpected (.str value)
  | value => reject .literalExpected value

def any (value : Json) : Checked Json := .accepted value.distinct

def nullable (check : Json → Checked α) : Json → Checked (Option α)
  | .null => .accepted none
  | value => (check value).map some

def list (check : Json → Checked α) : Json → Checked (List α)
  | .arr items => all (items.mapIdx fun position item => (check item).within (.index position))
  | value => reject .listExpected value

/-- An object with any keys, all of whose values have the same shape. -/
def table (check : Json → Checked α) : Json → Checked (Table α)
  | .obj fields =>
      (all (fields.map fun field =>
        ((check field.2).within (.key (Text.shown field.1))).map fun value => (field.1, value))).map Table.ofList
  | value => reject .objectExpected value

/-- An object with fixed fields. -/
def model (origin : Origin) (check : List (Text × Json) → Checked α) : Json → Checked α
  | .obj fields => check fields
  | value => reject origin.modelIssue value

end Checked

end PageCompiler
