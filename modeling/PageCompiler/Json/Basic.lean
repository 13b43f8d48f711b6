/-
  Values of the data format that documents are written in. Objects keep their fields in order;
  whole numbers are exact and unbounded, all other numbers are doubles. A text may repeat the name
  of a field: the value that counts is the last one.
-/
import PageCompiler.Number.Binary64
import PageCompiler.Table

namespace PageCompiler

inductive Json where
  | null
  | bool (value : Bool)
  | int (value : Int)
  | float (value : Binary64)
  | str (value : Text)
  | arr (items : List Json)
  | obj (fields : List (Text × Json))
deriving Inhabited, Repr

namespace Json

/-- The value of a field of an object. -/
def field? (name : Text) : Json → Option Json
  | .obj fields => last? name fields
  | _ => none

def string? : Json → Option Text
  | .str value => some value
  | _ => none

mutual

/-- The value without repeated fields: each name keeps its first place and its last value. -/
def distinct : Json → Json
  | .arr items => .arr (distinctItems items)
  | .obj fields => .obj (upsertAll [] (distinctFields fields))
  | value => value

def distinctItems : List Json → List Json
  | [] => []
  | item :: rest => item.distinct :: distinctItems rest

/-- The fields with their values, a repeated one still in all its places. -/
def distinctFields : List (Text × Json) → List (Text × Json)
  | [] => []
  | (name, value) :: rest => (name, value.distinct) :: distinctFields rest

end

mutual

/-- Whether a value can be sent: its numbers have digits, and its strings and names hold characters
    only. -/
def isSendable : Json → Bool
  | .float (.finite _ _ _) => true
  | .float _ => false
  | .str value => value.isScalar
  | .arr items => itemsAreSendable items
  | .obj fields => fieldsAreSendable fields
  | _ => true

def itemsAreSendable : List Json → Bool
  | [] => true
  | item :: rest => item.isSendable && itemsAreSendable rest

def fieldsAreSendable : List (Text × Json) → Bool
  | [] => true
  | (name, value) :: rest => Text.isScalar name && value.isSendable && fieldsAreSendable rest

end

end Json

end PageCompiler
