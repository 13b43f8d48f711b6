/-
  Options of a compile, and how they are read from data. A flag may be given as a boolean, as the
  number 0 or 1, or as one of a few words in any case.
-/
import PageCompiler.Checked

namespace PageCompiler

structure RenderConfig where
  /-- Marks elements and slots for the editor. -/
  editor : Bool := false
  /-- Lays the module out anew. -/
  pretty : Bool := false
deriving DecidableEq, Repr

namespace Flag

def trueWords : List Text := ["1", "true", "t", "yes", "y", "on"]

def falseWords : List Text := ["0", "false", "f", "no", "n", "off"]

def ofWord (word : Text) : Checked Bool :=
  let lower := word.asciiLower
  if lower ∈ trueWords then .accepted true
  else if lower ∈ falseWords then .accepted false
  else .reject .booleanUnreadable (.str word)

/-- The first number that does not fit a signed machine word. -/
def wordLimit : Int := 9223372036854775808

/-- Whether a whole number is read as a flag at all. Integers are if they fit a machine word;
    doubles have to lie strictly between the limits on both sides. -/
def isReadable (isDouble : Bool) (value : Int) : Bool :=
  (if isDouble then -wordLimit < value else -wordLimit ≤ value) && value < wordLimit

def ofInt (source : Json) (isDouble : Bool) (value : Int) : Checked Bool :=
  if value = 0 then .accepted false
  else if value = 1 then .accepted true
  else if isReadable isDouble value then .reject .booleanUnreadable source
  else .reject .booleanExpected source

def check (source : Json) : Checked Bool :=
  match source with
  | .bool value => .accepted value
  | .int value => ofInt source false value
  | .float value =>
      match value.toInt? with
      | some whole => ofInt source true whole
      | none => .reject .booleanExpected source
  | .str word => ofWord word
  | _ => .reject .booleanExpected source

end Flag

namespace RenderConfig

open Checked

def check (origin : Origin) : Json → Checked RenderConfig :=
  model origin fun fields =>
    RenderConfig.mk <$> withDefault false ⟨"editor", "editor"⟩ Flag.check fields
      <*> withDefault false ⟨"pretty", "pretty"⟩ Flag.check fields

end RenderConfig

end PageCompiler
