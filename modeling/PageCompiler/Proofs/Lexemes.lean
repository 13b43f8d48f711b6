/-
  The lexemes of a module's text: its literals, and the code points outside of literals that are not
  blank.

  A literal opens at a quote and ends at the same quote unless that is escaped. A template literal goes
  on over line breaks; any other literal is cut off at the end of its line. `Lexeme.LaidOut` says what
  can become of a lexeme when the text is laid out anew: in a template every line break is one line
  feed, and what was cut off can lose blanks at its end. All other lexemes stay.
-/
import Mathlib.Data.List.Forall2
import PageCompiler.Layout
import PageCompiler.Proofs.LineBreaks

namespace PageCompiler

open Layout

inductive Lexeme where
  /-- A literal that may span lines, with its quotes. -/
  | template (text : Text)
  /-- Any other literal, with its quotes. -/
  | string (text : Text)
  /-- A code point outside of literals. -/
  | mark (point : CodePoint)
deriving DecidableEq, Repr

/-- A literal that has been opened: what has been read of it, the quote included, and whether its next
    code point is escaped. -/
@[ext]
structure OpenLiteral where
  quote : CodePoint
  text : Text
  escaped : Bool
  quoted : isQuote quote = true

/-- The lexemes that are complete, the last one first, and the literal that is open. -/
structure Cutter where
  lexemes : List Lexeme
  literal : Option OpenLiteral

namespace OpenLiteral

def spans (literal : OpenLiteral) : Prop := literal.quote = spanningQuote

instance (literal : OpenLiteral) : Decidable literal.spans :=
  inferInstanceAs (Decidable (_ = _))

def add (literal : OpenLiteral) (text : Text) (escaped : Bool) : OpenLiteral :=
  { literal with text := literal.text ++ text, escaped }

/-- The literal after a code point that ends no line. -/
def read (literal : OpenLiteral) (point : CodePoint) : OpenLiteral :=
  literal.add [point] (!literal.escaped && point == '\\')

def closedBy (literal : OpenLiteral) (point : CodePoint) : Bool :=
  !literal.escaped && point == literal.quote

def lexeme (literal : OpenLiteral) : Lexeme :=
  if literal.spans then .template literal.text else .string literal.text

end OpenLiteral

namespace Cutter

def start : Cutter := ⟨[], none⟩

def close (cutter : Cutter) (literal : OpenLiteral) : Cutter :=
  ⟨literal.lexeme :: cutter.lexemes, none⟩

def step (cutter : Cutter) (point : CodePoint) : Cutter :=
  match cutter.literal with
  | none =>
      if quoted : isQuote point then { cutter with literal := some ⟨point, [point], false, quoted⟩ }
      else if Text.isBlank point then cutter
      else { cutter with lexemes := .mark point :: cutter.lexemes }
  | some literal =>
      if Text.isLineBoundary point then
        if literal.spans then { cutter with literal := some (literal.add [point] false) }
        else cutter.close literal
      else if literal.closedBy point then cutter.close (literal.read point)
      else { cutter with literal := some (literal.read point) }

def run (cutter : Cutter) (text : Text) : Cutter := text.foldl step cutter

/-- At the end of the text a literal that is open ends too. -/
def finish (cutter : Cutter) : List Lexeme :=
  (cutter.literal.toList.map (·.lexeme) ++ cutter.lexemes).reverse

end Cutter

def lexemes (text : Text) : List Lexeme := (Cutter.start.run text).finish

namespace Lexeme

def template? : Lexeme → Option Text
  | template text => some text
  | _ => none

def string? : Lexeme → Option Text
  | string text => some text
  | _ => none

def literal? : Lexeme → Option Text
  | template text => some text
  | string text => some text
  | mark _ => none

def mark? : Lexeme → Option CodePoint
  | mark point => some point
  | _ => none

/-- What can become of a lexeme when the text around it is laid out. -/
inductive LaidOut : Lexeme → Lexeme → Prop
  | template (text : Text) : LaidOut (.template text) (.template (Text.unifyBreaks text))
  | string (text : Text) {trail : Text} : Text.AllBlank trail →
      LaidOut (.string (text ++ trail)) (.string text)
  | mark (point : CodePoint) : LaidOut (.mark point) (.mark point)

end Lexeme

def templates (text : Text) : List Text := (lexemes text).filterMap Lexeme.template?

def strings (text : Text) : List Text := (lexemes text).filterMap Lexeme.string?

/-- The literals of a text, with their quotes. -/
def literals (text : Text) : List Text := (lexemes text).filterMap Lexeme.literal?

/-- The code points of a text that are outside of literals and not blank. -/
def marks (text : Text) : List CodePoint := (lexemes text).filterMap Lexeme.mark?

namespace Lexeme

variable {plain pretty : List Lexeme}

theorem filterMap_mark?_of_laidOut (laid : List.Forall₂ LaidOut plain pretty) :
    pretty.filterMap mark? = plain.filterMap mark? := by
  induction laid with
  | nil => rfl
  | cons here _ ih => cases here <;> simp only [List.filterMap_cons, mark?, ih]

/-- If no string ends in a blank, the literals stay the same exactly if the line breaks in templates
    are line feeds. -/
theorem filterMap_literal?_of_laidOut (laid : List.Forall₂ LaidOut plain pretty)
    (filled : ∀ text ∈ plain.filterMap string?, Text.EndsFilled text) :
    pretty.filterMap literal? = plain.filterMap literal? ↔
      ∀ text ∈ plain.filterMap template?, Text.FeedsOnly text := by
  induction laid with
  | nil => simp
  | cons here _ ih =>
      cases here with
      | template text =>
          simp only [List.filterMap_cons, string?, literal?, template?] at filled ⊢
          rw [List.cons.injEq, List.forall_mem_cons, Text.unifyBreaks_eq_self_iff, ih filled]
      | string text blank =>
          simp only [List.filterMap_cons, string?, literal?, template?] at filled ⊢
          rw [List.forall_mem_cons] at filled
          have kept := filled.1.eq_nil_of_blank blank
          rw [kept, List.append_nil, List.cons.injEq, ih filled.2]
          exact and_iff_right rfl
      | mark point =>
          simp only [List.filterMap_cons, string?, literal?, template?] at filled ⊢
          exact ih filled

end Lexeme

namespace OpenLiteral

variable {literal : OpenLiteral} {point : CodePoint} {text : Text} {escaped : Bool}

/-- What layout makes of the part that has been read. -/
def laidOut (literal : OpenLiteral) : OpenLiteral :=
  if literal.spans then { literal with text := Text.unifyBreaks literal.text } else literal

theorem quote_laidOut : literal.laidOut.quote = literal.quote := by
  unfold laidOut
  split <;> rfl

theorem escaped_laidOut : literal.laidOut.escaped = literal.escaped := by
  unfold laidOut
  split <;> rfl

theorem spans_laidOut : literal.laidOut.spans ↔ literal.spans := by
  rw [spans, spans, quote_laidOut]

theorem closedBy_laidOut : literal.laidOut.closedBy point = literal.closedBy point := by
  rw [closedBy, closedBy, quote_laidOut, escaped_laidOut]

theorem laidOut_of_spans (spans : literal.spans) :
    literal.laidOut = { literal with text := Text.unifyBreaks literal.text } := if_pos spans

theorem laidOut_of_not_spans (spans : ¬ literal.spans) : literal.laidOut = literal := if_neg spans

theorem spans_add : (literal.add text escaped).spans ↔ literal.spans := Iff.rfl

theorem laidOut_add_of_spans (spans : literal.spans) (uncut : Text.Uncut literal.text text) :
    (literal.add text escaped).laidOut = literal.laidOut.add (Text.unifyBreaks text) escaped := by
  rw [laidOut_of_spans spans, laidOut_of_spans (spans_add.mpr spans)]
  refine OpenLiteral.ext rfl ?_ rfl
  exact Text.unifyBreaks_append uncut

theorem laidOut_read (unbroken : Text.isLineBoundary point = false) :
    (literal.read point).laidOut = literal.laidOut.read point := by
  by_cases spans : literal.spans
  · rw [read, laidOut_add_of_spans spans (Text.uncut_of_unbroken unbroken),
      Text.unifyBreaks_singleton unbroken, read, escaped_laidOut]
  · rw [read, laidOut_of_not_spans (mt spans_add.mp spans), laidOut_of_not_spans spans, read]

theorem lexeme_laidOut (literal : OpenLiteral) : literal.lexeme.LaidOut literal.laidOut.lexeme := by
  by_cases spans : literal.spans
  · rw [lexeme, if_pos spans, lexeme, if_pos (spans_laidOut.mpr spans), laidOut_of_spans spans]
    exact .template _
  · rw [laidOut_of_not_spans spans, lexeme, if_neg spans]
    have whole := @Lexeme.LaidOut.string literal.text [] (by simp [Text.AllBlank])
    rwa [List.append_nil] at whole

end OpenLiteral

namespace Cutter

variable {plain pretty cutter : Cutter} {literal : OpenLiteral} {point : CodePoint} {text : Text}

theorem run_cons (cutter : Cutter) (point : CodePoint) (text : Text) :
    cutter.run (point :: text) = (cutter.step point).run text :=
  rfl

theorem run_singleton (cutter : Cutter) (point : CodePoint) :
    cutter.run [point] = cutter.step point :=
  rfl

theorem run_append (cutter : Cutter) (left right : Text) :
    cutter.run (left ++ right) = (cutter.run left).run right :=
  List.foldl_append

theorem not_isBlank_of_isQuote (quoted : isQuote point = true) : Text.isBlank point = false := by
  have all : ∀ other ∈ ("\x22\x27\x60" : Text), Text.isBlank other = false := by decide
  exact all point (of_decide_eq_true quoted)

theorem step_quote (outside : cutter.literal = none) (quoted : isQuote point = true) :
    cutter.step point = { cutter with literal := some ⟨point, [point], false, quoted⟩ } := by
  simp [step, outside, quoted]

theorem step_blank (outside : cutter.literal = none) (blank : Text.isBlank point = true) :
    cutter.step point = cutter := by
  have unquoted : isQuote point = false := by
    by_contra quoted
    simp [not_isBlank_of_isQuote (Bool.of_not_eq_false quoted)] at blank
  simp [step, outside, unquoted, blank]

theorem step_mark (outside : cutter.literal = none) (unquoted : isQuote point = false)
    (filled : Text.isBlank point = false) :
    cutter.step point = { cutter with lexemes := .mark point :: cutter.lexemes } := by
  simp [step, outside, unquoted, filled]

theorem literal_step_of_not_quote (outside : cutter.literal = none)
    (unquoted : isQuote point = false) : (cutter.step point).literal = none := by
  cases blank : Text.isBlank point with
  | true => rwa [step_blank outside blank]
  | false => rwa [step_mark outside unquoted blank]

theorem step_unbroken (inside : cutter.literal = some literal)
    (unbroken : Text.isLineBoundary point = false) :
    cutter.step point = if literal.closedBy point then cutter.close (literal.read point)
      else { cutter with literal := some (literal.read point) } := by
  simp [step, inside, unbroken]

theorem step_break (inside : cutter.literal = some literal)
    (boundary : Text.isLineBoundary point = true) :
    cutter.step point = if literal.spans then
      { cutter with literal := some (literal.add [point] false) } else cutter.close literal := by
  simp [step, inside, boundary]

/-- A literal that is open ends with the last code point that was read. -/
theorem getLast?_of_step (inside : (cutter.step point).literal = some literal) :
    literal.text.getLast? = some point := by
  cases before : cutter.literal with
  | none =>
      cases quoted : isQuote point with
      | true =>
          rw [step_quote before quoted] at inside
          cases inside
          rfl
      | false =>
          rw [literal_step_of_not_quote before quoted] at inside
          cases inside
  | some opened =>
      cases boundary : Text.isLineBoundary point with
      | true =>
          rw [step_break before boundary] at inside
          split at inside
          · cases inside
            exact List.getLast?_concat
          · cases inside
      | false =>
          rw [step_unbroken before boundary] at inside
          split at inside
          · cases inside
          · cases inside
            exact List.getLast?_concat

/-- The states of cutting a text and the text that layout makes of it. -/
structure LaidOut (plain pretty : Cutter) : Prop where
  lexemes : List.Forall₂ Lexeme.LaidOut plain.lexemes pretty.lexemes
  literal : pretty.literal = plain.literal.map OpenLiteral.laidOut

theorem LaidOut.outside (laid : LaidOut plain pretty) (outside : plain.literal = none) :
    pretty.literal = none := by
  rw [laid.literal, outside]
  rfl

theorem LaidOut.inside (laid : LaidOut plain pretty) (inside : plain.literal = some literal) :
    pretty.literal = some literal.laidOut := by
  rw [laid.literal, inside]
  rfl

theorem LaidOut.close (laid : LaidOut plain pretty) {final : OpenLiteral}
    (here : literal.lexeme.LaidOut final.lexeme) : LaidOut (plain.close literal) (pretty.close final) :=
  ⟨.cons here laid.lexemes, rfl⟩

theorem LaidOut.step (laid : LaidOut plain pretty) (unbroken : Text.isLineBoundary point = false) :
    LaidOut (plain.step point) (pretty.step point) := by
  cases literal : plain.literal with
  | none =>
      have outside := laid.outside literal
      cases quoted : isQuote point with
      | true =>
          rw [step_quote literal quoted, step_quote outside quoted]
          refine ⟨laid.lexemes, ?_⟩
          simp [OpenLiteral.laidOut, Text.unifyBreaks_singleton unbroken]
      | false =>
          cases blank : Text.isBlank point with
          | true =>
              rw [step_blank literal blank, step_blank outside blank]
              exact laid
          | false =>
              rw [step_mark literal quoted blank, step_mark outside quoted blank]
              exact ⟨.cons (.mark point) laid.lexemes, laid.literal⟩
  | some opened =>
      rw [step_unbroken literal unbroken, step_unbroken (laid.inside literal) unbroken,
        ← OpenLiteral.laidOut_read unbroken, OpenLiteral.closedBy_laidOut]
      split
      · exact laid.close (OpenLiteral.lexeme_laidOut _)
      · exact ⟨laid.lexemes, rfl⟩

theorem LaidOut.run (laid : LaidOut plain pretty) (unbroken : Text.Unbroken text) :
    LaidOut (plain.run text) (pretty.run text) := by
  induction text generalizing plain pretty with
  | nil => exact laid
  | cons point rest ih =>
      exact ih (laid.step (unbroken point List.mem_cons_self))
        fun other member => unbroken other (.tail _ member)

theorem LaidOut.finish (laid : LaidOut plain pretty) :
    List.Forall₂ Lexeme.LaidOut plain.finish pretty.finish := by
  refine List.rel_reverse (List.rel_append ?_ laid.lexemes)
  rw [laid.literal]
  cases plain.literal with
  | none => exact .nil
  | some literal => exact .cons literal.lexeme_laidOut .nil

end Cutter

end PageCompiler
