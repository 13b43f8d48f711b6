/-
  The data that a request carries. It comes as bytes in any of the Unicode encodings, or as a value
  that needs no reading.
-/
import PageCompiler.Json.Reader
import PageCompiler.Text.Encoding

namespace PageCompiler.Service

inductive Body where
  | absent
  | bytes (content : List UInt8)
  | value (content : Json)

/-- Why a request has no data. -/
inductive BodyFault where
  | absent
  | malformed
  /-- The bytes are no text, or the text goes beyond the limits. -/
  | unreadable
deriving DecidableEq, Repr

/-- Requests have at most 950 containers in one another and integers of at most 4300 digits. -/
def bodyLimits : Json.Limits := { depth := some 950, digits := some 4300 }

def Body.ofText (text : Text) : Except BodyFault Json :=
  match Json.read bodyLimits text with
  | .ok found => .ok found.distinct
  | .error (.malformed _ _) => .error .malformed
  | .error _ => .error .unreadable

def Body.read : Body → Except BodyFault Json
  | .absent | .bytes [] => .error .absent
  | .value content => .ok content
  | .bytes content =>
      match Text.decode? content with
      | some text => Body.ofText text
      | none => .error .unreadable

end PageCompiler.Service
