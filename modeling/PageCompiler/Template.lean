/-
  Templates: text with references to values of other nodes between double braces, as in
  `Hello {{input.value}}`.

  Reading cuts a template at the first pair of opening braces and the first pair of closing braces
  after it, over and over. Each cut leaves a shorter text, so reading ends. A fault names the
  position of the opening braces, counted in characters.
-/
import PageCompiler.Text.Blank
import PageCompiler.Text.Quoted
import PageCompiler.Text.Split
import PageCompiler.Text.WordChar

namespace PageCompiler

inductive TemplatePart where
  | text (content : Text)
  | reference (path : Text)
deriving DecidableEq, Repr

/-- What can be wrong between a pair of opening braces and the end of the template. -/
inductive TemplateFault where
  | unterminated
  | nested
  | empty
  | invalidReference (content : Text)
deriving DecidableEq, Repr

def TemplateFault.message : TemplateFault → Text
  | .unterminated => "unterminated interpolation"
  | .nested => "nested interpolation"
  | .empty => "empty interpolation"
  | .invalidReference content => "invalid reference " ++ Text.quoted content

structure TemplateError where
  template : Text
  position : Nat
  fault : TemplateFault
deriving DecidableEq, Repr

def TemplateError.message (error : TemplateError) : Text :=
  "Invalid binding " ++ Text.quoted error.template ++ " at position "
    ++ Text.ofNat error.position ++ ": " ++ error.fault.message

namespace Template

/-- Cuts a text at the first place where `mark` stands twice, and drops the two marks. -/
def cutAtPair (mark : CodePoint) : Text → Option (Text × Text)
  | c :: d :: rest =>
      if c = mark ∧ d = mark then some ([], rest)
      else (cutAtPair mark (d :: rest)).map fun (before, after) => (c :: before, after)
  | _ => none

theorem eq_append_of_cutAtPair {mark : CodePoint} {text before after : Text}
    (cut : cutAtPair mark text = some (before, after)) :
    text = before ++ mark :: mark :: after := by
  fun_induction cutAtPair mark text generalizing before with
  | case1 c d rest both =>
      simp only [Option.some.injEq, Prod.mk.injEq] at cut
      simp [← cut.1, cut.2, both.1, both.2]
  | case2 c d rest both ih =>
      simp only [Option.map_eq_some_iff, Prod.exists, Prod.mk.injEq] at cut
      obtain ⟨front, back, inner, rfl, rfl⟩ := cut
      simp [ih inner]
  | case3 => simp at cut

theorem length_of_cutAtPair {mark : CodePoint} {text before after : Text}
    (cut : cutAtPair mark text = some (before, after)) :
    after.length + before.length + 2 = text.length := by
  rw [eq_append_of_cutAtPair cut]
  simp
  omega

/-- Characters of the segments of a reference. -/
def isSegmentPart (point : CodePoint) : Bool := Text.isWordChar point || point = '$'

/-- Characters that may start the name of a referenced node. -/
def isNameStart : CodePoint → Bool :=
  CodePoint.holds fun c => c.isAlpha || c == '_' || c == '$'

/-- A node name and any number of segments, all divided by dots. Segments may be indexes. -/
def isReference (text : Text) : Bool :=
  match Text.splitAt '.' text with
  | (first :: rest) :: path =>
      isNameStart first && rest.all isSegmentPart
        && path.all fun segment => !segment.isEmpty && segment.all isSegmentPart
  | _ => false

/-- The reference that stands between the braces, blanks around it removed. -/
def readReference (content : Text) : Except TemplateFault Text :=
  let reference := Text.trim content
  if (cutAtPair '\x7b' content).isSome then .error .nested
  else if reference.isEmpty then .error .empty
  else if isReference reference then .ok reference
  else .error (.invalidReference reference)

/-- A part for a text, none for the empty text. -/
def textParts (text : Text) : List TemplatePart :=
  if text.isEmpty then [] else [.text text]

/-- Reads a text whose first character has the given position in the template. -/
def parseFrom (position : Nat) (text : Text) :
    Except (Nat × TemplateFault) (List TemplatePart) :=
  match opened : cutAtPair '\x7b' text with
  | none => .ok (textParts text)
  | some (before, inside) =>
      have := length_of_cutAtPair opened
      let start := position + before.length
      match closed : cutAtPair '\x7d' inside with
      | none => .error (start, .unterminated)
      | some (content, rest) =>
          have := length_of_cutAtPair closed
          match readReference content with
          | .error fault => .error (start, fault)
          | .ok reference =>
              match parseFrom (start + content.length + 4) rest with
              | .error fault => .error fault
              | .ok parts => .ok (textParts before ++ .reference reference :: parts)
termination_by text.length
decreasing_by omega

def parse (template : Text) : Except TemplateError (List TemplatePart) :=
  match parseFrom 0 template with
  | .ok parts => .ok parts
  | .error (position, fault) => .error ⟨template, position, fault⟩

/-- The references of a template, in order. -/
def references (parts : List TemplatePart) : List Text :=
  parts.filterMap fun
    | .text _ => none
    | .reference path => some path

end Template

end PageCompiler
