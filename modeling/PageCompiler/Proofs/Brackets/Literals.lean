/-
  The literals that a module is written with are balanced, whatever they hold.

  In a string literal every quote and every backslash of the text is escaped and no line breaks. In a
  template literal backticks and backslashes are escaped; other line breaks than the common ones stay,
  which is why only this literal may span lines. Code inside a template stands there as it is, so it has
  to be neutral.
-/
import PageCompiler.Json.Printer
import PageCompiler.Proofs.Brackets.Balance
import PageCompiler.Proofs.FreshName
import PageCompiler.Proofs.Segments
import PageCompiler.TemplateCode

namespace PageCompiler

open Layout

namespace Identifier

variable {point : CodePoint} {text : Text}

theorem neutral_of_isPart (part : isPart point = true) : isDelimiter point = false ∧ point ≠ '\\' :=
  neutral_of_property (by decide) part

theorem not_isLineBoundary_of_isPart (part : isPart point = true) :
    Text.isLineBoundary point = false := by
  have all : ∀ other ∈ ("\n\r\x0b\x0c\x1c\x1d\x1e\u0085\u2028\u2029" : Text),
      isPart other = false := by
    decide
  refine Bool.eq_false_iff.mpr fun boundary => ?_
  rw [all point (of_decide_eq_true boundary)] at part
  cases part

theorem IsValid.neutral (valid : IsValid text) : Neutral text :=
  fun _ member => neutral_of_isPart (valid.isPart_of_mem member)

end Identifier

theorem Text.isPart_of_mem_hexDigits {width value : Nat} {point : CodePoint}
    (member : point ∈ Text.hexDigits width value) : Identifier.isPart point = true := by
  induction width generalizing value with
  | zero => cases member
  | succ width ih =>
      have digits : ∀ digit < 16,
          Identifier.isPart (("0123456789abcdef" : Text).getD digit '0') = true := by
        decide
      rcases List.mem_append.mp member with front | last
      · exact ih front
      · rw [List.mem_singleton.mp last]
        exact digits _ (Nat.mod_lt value (by decide))

namespace Json

theorem content_escapeUnit (unit : Nat) : Content '\x22' (escapeUnit unit) := by
  refine (Content.escape 'u' rfl).append (.of_plain (fun point member => ?_) (.inl ?_))
  · obtain ⟨plain, noEscape⟩ := Identifier.neutral_of_isPart (Text.isPart_of_mem_hexDigits member)
    refine ⟨?_, noEscape⟩
    rintro rfl
    cases plain
  · exact fun point member =>
      Identifier.not_isLineBoundary_of_isPart (Text.isPart_of_mem_hexDigits member)

theorem not_isLineBoundary_of_printable {point : CodePoint}
    (printable : 0x20 ≤ point.code ∧ point.code ≤ 0x7e) : Text.isLineBoundary point = false := by
  have all : ∀ other ∈ ("\n\r\x0b\x0c\x1c\x1d\x1e\u0085\u2028\u2029" : Text),
      ¬ (0x20 ≤ other.code ∧ other.code ≤ 0x7e) := by
    decide
  refine Bool.eq_false_iff.mpr fun boundary => ?_
  exact all point (of_decide_eq_true boundary) printable

theorem content_printable {point : CodePoint} (noQuote : point ≠ '\x22') (noEscape : point ≠ '\\')
    (printable : 0x20 ≤ point.code ∧ point.code ≤ 0x7e) : Content '\x22' [point] := by
  exact .of_plain (List.forall_mem_singleton.mpr ⟨noQuote, noEscape⟩)
    (.inl (List.forall_mem_singleton.mpr (not_isLineBoundary_of_printable printable)))

theorem content_escapePoint (point : CodePoint) : Content '\x22' (escapePoint point) := by
  unfold escapePoint
  split_ifs with quote escape
  · exact .escape '\x22' rfl
  · exact .escape '\\' rfl
  · exact .escape 'n' rfl
  · exact .escape 'r' rfl
  · exact .escape 't' rfl
  · exact .escape 'b' rfl
  · exact .escape 'f' rfl
  · next printable => exact content_printable quote escape printable
  · exact content_escapeUnit _
  · exact (content_escapeUnit _).append (content_escapeUnit _)

theorem balanced_stringLiteral (text : Text) : Balanced (stringLiteral text) :=
  .literal '\x22' rfl (.flatMap fun point _ => content_escapePoint point)

end Json

theorem Text.neutral_ofNat (value : Nat) : Neutral (Text.ofNat value) :=
  fun _ member => Identifier.neutral_of_isPart (Text.isPart_of_mem_ofNat member)

namespace Binary64

/-- Digits, signs, points and the letters of numbers. -/
def isNumeral (c : Char) : Bool := c.isAlphanum || c == '.' || c == '+' || c == '-'

def Numerals (chars : List Char) : Prop := ∀ c ∈ chars, isNumeral c = true

instance : DecidablePred Numerals := fun chars => List.decidableBAll _ chars

theorem Numerals.neutral {chars : List Char} (numerals : Numerals chars) : Neutral (.ofChars chars) := by
  intro point member
  obtain ⟨c, inside, rfl⟩ := List.mem_map.mp member
  exact @neutral_of_property (CodePoint.holds isNumeral) _ (by decide) (numerals c inside)

theorem numerals_toDigits (value : Nat) : Numerals (Nat.toDigits 10 value) := by
  intro c member
  have digit := Nat.isDigit_of_mem_toDigits (by decide) (by decide) member
  simp [isNumeral, Char.isAlphanum, digit]

theorem numerals_significantDigits (decimal : Decimal) : Numerals (significantDigits decimal) := by
  intro c member
  have inDigits := (List.dropWhile_sublist _).subset (List.mem_reverse.mp member)
  exact numerals_toDigits _ c (List.mem_reverse.mp inDigits)

theorem numerals_exponentText (exponent : Int) : Numerals (exponentText exponent) := by
  refine List.forall_mem_cons.mpr ⟨?_, ?_⟩
  · split <;> decide
  · split
    · exact List.forall_mem_cons.mpr ⟨by decide, numerals_toDigits _⟩
    · exact numerals_toDigits _

variable {digits : List Char} (numerals : Numerals digits)
include numerals

theorem numerals_scientificText (exponent : Int) : Numerals (scientificText digits exponent) := by
  have power : Numerals ('e' :: exponentText exponent) :=
    List.forall_mem_cons.mpr ⟨by decide, numerals_exponentText exponent⟩
  unfold scientificText
  split
  · exact numerals
  · exact List.forall_mem_cons.mpr ⟨numerals _ List.mem_cons_self, power⟩
  · obtain ⟨first, rest⟩ := List.forall_mem_cons.mp numerals
    refine List.forall_mem_cons.mpr ⟨first, List.forall_mem_cons.mpr ⟨by decide, ?_⟩⟩
    exact List.forall_mem_append.mpr ⟨rest, power⟩

theorem numerals_positionalText (exponent : Int) : Numerals (positionalText digits exponent) := by
  have zeros : ∀ count, Numerals (List.replicate count '0') := by
    intro count c member
    rw [List.eq_of_mem_replicate member]
    decide
  unfold positionalText
  split
  · refine List.forall_mem_cons.mpr ⟨by decide, List.forall_mem_cons.mpr ⟨by decide, ?_⟩⟩
    exact List.forall_mem_append.mpr ⟨zeros _, numerals⟩
  · have padded : ∀ count, Numerals (digits ++ List.replicate count '0') :=
      fun count => List.forall_mem_append.mpr ⟨numerals, zeros count⟩
    refine List.forall_mem_append.mpr ⟨fun c member => padded _ c (List.mem_of_mem_take member), ?_⟩
    refine List.forall_mem_cons.mpr ⟨by decide, ?_⟩
    split
    · exact (by decide : Numerals ['0'])
    · exact fun c member => padded _ c (List.mem_of_mem_drop member)

omit numerals

theorem numerals_magnitudeText (mantissa : Nat) (exponent : Int) :
    Numerals (magnitudeText mantissa exponent) := by
  unfold magnitudeText
  split
  · decide
  · dsimp only
    split
    · exact numerals_positionalText (numerals_significantDigits _) _
    · exact numerals_scientificText (numerals_significantDigits _) _

theorem neutral_text (value : Binary64) : Neutral value.text := by
  cases value with
  | nan => decide
  | infinite negative => cases negative <;> decide +kernel
  | finite negative mantissa exponent =>
      have sign : Numerals (if negative then ['-'] else []) := by
        cases negative <;> decide
      exact Numerals.neutral (List.forall_mem_append.mpr ⟨sign, numerals_magnitudeText _ _⟩)

end Binary64

namespace Json

theorem neutral_intLiteral (value : Int) : Neutral (intLiteral value) := by
  cases value with
  | ofNat value => exact Text.neutral_ofNat value
  | negSucc value => exact List.forall_mem_cons.mpr ⟨by decide, Text.neutral_ofNat _⟩

mutual

/-- The literal of a value is balanced. -/
theorem balanced_literal : ∀ value : Json, Balanced value.literal
  | .null => Unmarked.balanced (by decide)
  | .bool true => Unmarked.balanced (by decide)
  | .bool false => Unmarked.balanced (by decide)
  | .int value => (neutral_intLiteral value).balanced
  | .float value => value.neutral_text.balanced
  | .str value => balanced_stringLiteral value
  | .arr [] => Path.fixed "[]" rfl
  | .arr (first :: rest) =>
      (((Path.fixed "[" rfl).hold (balanced_literal first)).hold (balanced_itemsLiteral rest)).write
        "]" rfl
  | .obj [] => Path.fixed "\x7b\x7d" rfl
  | .obj ((name, value) :: rest) =>
      (((((Path.fixed "\x7b" rfl).hold (balanced_stringLiteral name)).write ": " rfl).hold
        (balanced_literal value)).hold (balanced_fieldsLiteral rest)).write "\x7d" rfl

theorem balanced_itemsLiteral : ∀ items : List Json, Balanced (itemsLiteral items)
  | [] => .nil
  | item :: rest =>
      ((Path.fixed ", " rfl).hold (balanced_literal item)).hold (balanced_itemsLiteral rest)

theorem balanced_fieldsLiteral : ∀ fields : List (Text × Json), Balanced (fieldsLiteral fields)
  | [] => .nil
  | (name, value) :: rest =>
      ((((Path.fixed ", " rfl).hold (balanced_stringLiteral name)).write ": " rfl).hold
        (balanced_literal value)).hold (balanced_fieldsLiteral rest)

end

end Json

namespace Template

theorem content_escapeLiteral (text : Text) : Content spanningQuote (escapeLiteral text) := by
  fun_induction escapeLiteral text with
  | case1 => exact .stay _
  | case2 rest ih =>
      have brace : Content spanningQuote ("\x7b" : Text) := .of_plain (by decide) (.inr rfl)
      exact ((Content.escape '$' rfl).append brace).append ih
  | case3 point rest notMark escaped ih =>
      refine Content.append ?_ ih
      unfold escaped
      split_ifs with special
      · rcases special with rfl | rfl
        · exact .escape _ rfl
        · exact .escape _ rfl
      · exact .escape 'n' rfl
      · exact .escape 'r' rfl
      · exact .escape 't' rfl
      · rw [not_or] at special
        exact .of_plain (List.forall_mem_singleton.mpr ⟨special.2, special.1⟩) (.inr rfl)

/-- The code of the references is neutral. -/
def NeutralCodes (parts : List ResolvedPart) : Prop :=
  ∀ path code, .reference path code ∈ parts → Neutral (code.getD [])

variable {parts : List ResolvedPart} (codes : NeutralCodes parts)
include codes

theorem balanced_templateLiteral : Balanced (templateLiteral parts) := by
  refine .literal spanningQuote rfl (.flatMap fun part member => ?_)
  cases part with
  | text content => exact content_escapeLiteral content
  | reference path code =>
      -- In a template the braces are content like all else.
      have opening : Content spanningQuote ("$\x7b" : Text) := .of_plain (by decide) (.inr rfl)
      have closing : Content spanningQuote ("\x7d" : Text) := .of_plain (by decide) (.inr rfl)
      exact (opening.append (codes path code member).content).append closing

theorem balanced_plainExpression : Balanced (plainExpression parts) := by
  unfold plainExpression
  split
  · exact (codes _ _ List.mem_cons_self).balanced
  · split
    · exact Json.balanced_stringLiteral _
    · exact balanced_templateLiteral codes

theorem balanced_format {hint : Option Text} {code : Text} (formatted : format hint parts = .ok code) :
    Balanced code := by
  unfold format at formatted
  split at formatted
  · cases formatted
  · cases formatted
  · cases formatted
    exact balanced_plainExpression codes
  · cases formatted
    exact balanced_templateLiteral codes
  · cases formatted
    exact ((Path.fixed "Number(" rfl).hold (balanced_plainExpression codes)).write ")" rfl

end Template

end PageCompiler
