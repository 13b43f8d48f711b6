/-
  The literal of a value is printable ASCII, whatever the value holds.

  What is not printable ASCII stands only in strings, and there each code point is written by an escape
  of digits and letters. Numbers are written with numerals and signs, also those that have no digits.
-/
import Mathlib.Tactic.SplitIfs
import PageCompiler.Json.Printer
import PageCompiler.Proofs.Brackets.Literals

namespace PageCompiler.Json

open Text

/-- Printable ASCII. -/
def Printable (text : Text) : Prop := ∀ point ∈ text, 0x20 ≤ point.code ∧ point.code ≤ 0x7e

instance (text : Text) : Decidable (Printable text) := List.decidableBAll _ text

theorem Printable.append {left right : Text} (first : Printable left) (second : Printable right) :
    Printable (left ++ right) :=
  List.forall_mem_append.mpr ⟨first, second⟩

theorem printable_of_isAlphanum {c : Char} (alphanum : c.isAlphanum = true) :
    0x20 ≤ c.toNat ∧ c.toNat ≤ 0x7e := by
  -- Upper case, lower case or a digit.
  have classes : (decide (c.val ≥ 'A'.val ∧ c.val ≤ 'Z'.val) ||
      decide (c.val ≥ 'a'.val) && decide (c.val ≤ 'z'.val) ||
      decide (c.val ≥ '0'.val) && decide (c.val ≤ '9'.val)) = true := alphanum
  simp only [Bool.or_eq_true, Bool.and_eq_true, decide_eq_true_eq, UInt32.le_iff_toNat_le,
    ge_iff_le] at classes
  rcases classes with (⟨low, high⟩ | ⟨low, high⟩) | ⟨low, high⟩
  all_goals exact ⟨Nat.le_trans (by decide) low, Nat.le_trans high (by decide)⟩

theorem printable_of_numerals {chars : List Char} (numerals : Binary64.Numerals chars) :
    Printable (ofChars chars) := by
  intro point member
  obtain ⟨c, inside, rfl⟩ := List.mem_map.mp member
  have numeral := numerals c inside
  simp only [Binary64.isNumeral, Bool.or_eq_true, beq_iff_eq] at numeral
  rcases numeral with ((alphanum | rfl) | rfl) | rfl
  · exact printable_of_isAlphanum alphanum
  all_goals decide

theorem printable_ofNat (value : Nat) : Printable (Text.ofNat value) :=
  printable_of_numerals (Binary64.numerals_toDigits value)

theorem printable_text (value : Binary64) : Printable value.text := by
  cases value with
  | nan => decide
  | infinite negative => cases negative <;> decide
  | finite negative mantissa exponent =>
      have sign : Binary64.Numerals (if negative then ['-'] else []) := by
        cases negative <;> decide
      exact printable_of_numerals
        (List.forall_mem_append.mpr ⟨sign, Binary64.numerals_magnitudeText _ _⟩)

theorem printable_hexDigits (width value : Nat) : Printable (hexDigits width value) := by
  induction width generalizing value with
  | zero => exact fun _ member => nomatch member
  | succ width ih =>
      have digits : ∀ digit < 16, Printable [("0123456789abcdef" : Text).getD digit '0'] := by
        decide
      exact (ih _).append (digits _ (Nat.mod_lt value (by decide)))

theorem printable_escapeUnit (unit : Nat) : Printable (escapeUnit unit) :=
  Printable.append (by decide) (printable_hexDigits 4 unit)

theorem printable_escapePoint (point : CodePoint) : Printable (escapePoint point) := by
  unfold escapePoint
  split_ifs with _ _ _ _ _ _ _ printable
  · decide
  · decide
  · decide
  · decide
  · decide
  · decide
  · decide
  · exact List.forall_mem_singleton.mpr printable
  · exact printable_escapeUnit _
  · exact (printable_escapeUnit _).append (printable_escapeUnit _)

theorem printable_stringLiteral (value : Text) : Printable (stringLiteral value) := by
  have quote : Printable ("\x22" : Text) := by decide
  refine (quote.append ?_).append quote
  intro point member
  obtain ⟨source, _, inEscape⟩ := List.mem_flatMap.mp member
  exact printable_escapePoint source point inEscape

theorem printable_intLiteral (value : Int) : Printable (intLiteral value) := by
  cases value with
  | ofNat value => exact printable_ofNat value
  | negSucc value => exact Printable.append (by decide) (printable_ofNat (value + 1))

mutual

/-- A literal is one line of printable ASCII, whatever the value holds. -/
theorem printable_literal : ∀ value : Json, Printable value.literal
  | .null => by decide
  | .bool true => by decide
  | .bool false => by decide
  | .int value => printable_intLiteral value
  | .float value => printable_text value
  | .str value => printable_stringLiteral value
  | .arr [] => by decide
  | .arr (first :: rest) =>
      ((Printable.append (by decide) (printable_literal first)).append
        (printable_itemsLiteral rest)).append (by decide)
  | .obj [] => by decide
  | .obj ((name, value) :: rest) =>
      (((((Printable.append (by decide) (printable_stringLiteral name)).append (by decide)).append
        (printable_literal value)).append (printable_fieldsLiteral rest))).append (by decide)

theorem printable_itemsLiteral : ∀ items : List Json, Printable (itemsLiteral items)
  | [] => by decide
  | item :: rest =>
      (Printable.append (by decide) (printable_literal item)).append (printable_itemsLiteral rest)

theorem printable_fieldsLiteral : ∀ fields : List (Text × Json), Printable (fieldsLiteral fields)
  | [] => by decide
  | (name, value) :: rest =>
      (((Printable.append (by decide) (printable_stringLiteral name)).append (by decide)).append
        (printable_literal value)).append (printable_fieldsLiteral rest)

end

end PageCompiler.Json
