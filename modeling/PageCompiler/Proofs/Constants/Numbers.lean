/-
  The digits of a whole number are read as the number.

  A number ends where its text stops going on: at no digit, no point and no mark of an exponent. Only
  zero has a zero in front, so the reader takes all the digits, if it takes so many at all
  (`Limits.Admits`). A text that starts with a digit or a sign starts none of the words.
-/
import Mathlib.Data.List.Basic
import Mathlib.Data.List.TakeDrop
import PageCompiler.Json.Printer
import PageCompiler.Json.Reader
import PageCompiler.Proofs.FreshName

namespace PageCompiler.Json

open Text

variable {limits : Limits} {text rest : Text}

/-- A number may start with the code point. -/
def StartsNumber (point : CodePoint) : Prop := point.isDigit = true ∨ point = '-'

instance : DecidablePred StartsNumber :=
  fun point => inferInstanceAs (Decidable (point.isDigit = true ∨ point = '-'))

/-- No number goes on with this text. -/
def EndsNumber (text : Text) : Prop :=
  ∀ point ∈ text.head?, point.isDigit = false ∧ point ≠ '.' ∧ point ≠ 'e' ∧ point ≠ 'E'

theorem span_isDigit {digits : Text} (all : ∀ point ∈ digits, point.isDigit = true)
    (ends : EndsNumber rest) : (digits ++ rest).span CodePoint.isDigit = (digits, rest) := by
  have stops : rest.takeWhile CodePoint.isDigit = [] ∧ rest.dropWhile CodePoint.isDigit = rest := by
    cases rest with
    | nil => exact ⟨rfl, rfl⟩
    | cons point rest => simp [(ends point rfl).1]
  rw [List.span_eq_takeWhile_dropWhile, List.takeWhile_append_of_pos all,
    List.dropWhile_append_of_pos all, stops.1, stops.2, List.append_nil]

theorem readFraction_of_ends (ends : EndsNumber rest) : readFraction rest = (none, rest) := by
  unfold readFraction
  split
  · exact absurd rfl (ends _ rfl).2.1
  · rfl

theorem readExponent_of_ends (ends : EndsNumber rest) : readExponent rest = (none, rest) := by
  unfold readExponent
  split
  · rfl
  · next mark rest =>
      obtain ⟨_, _, lower, upper⟩ := ends mark rfl
      rw [if_neg (not_or.mpr ⟨lower, upper⟩)]

theorem isDigit_of_mem_ofNat {value : Nat} {point : CodePoint} (member : point ∈ Text.ofNat value) :
    point.isDigit = true := by
  obtain ⟨c, inDigits, rfl⟩ := List.mem_map.mp member
  exact Nat.isDigit_of_mem_toDigits (by decide) (by decide) inDigits

/-- Only zero is written with a zero in front. -/
theorem head?_toDigits_ne {value : Nat} (positive : 0 < value) :
    (Nat.toDigits 10 value).head? ≠ some '0' := by
  induction value using Nat.strongRecOn with
  | ind value ih =>
      rw [Nat.toDigits_eq_if (by decide)]
      split
      · next small =>
          have digits : ∀ digit < 10, 0 < digit → [Nat.digitChar digit].head? ≠ some '0' := by
            decide
          exact digits value small positive
      · next large =>
          have below := ih (value / 10) (by omega) (by omega)
          rwa [List.head?_append_of_ne_nil _ Nat.toDigits_ne_nil]

theorem exists_cons_ofNat (value : Nat) : ∃ first digits, Text.ofNat value = first :: digits ∧
    first.isDigit = true ∧ (0 < value → first ≠ '0') := by
  obtain ⟨first, digits, isDigits⟩ := List.exists_cons_of_ne_nil (Text.ofNat_ne_nil value)
  refine ⟨first, digits, isDigits, isDigit_of_mem_ofNat (isDigits ▸ List.mem_cons_self), ?_⟩
  rintro positive rfl
  have isHead : ((Nat.toDigits 10 value).map CodePoint.char).head? = some (CodePoint.char '0') := by
    change (Text.ofNat value).head? = _
    rw [isDigits]
    rfl
  rw [List.head?_map, Option.map_eq_some_iff] at isHead
  obtain ⟨c, isFirst, isZero⟩ := isHead
  cases isZero
  exact head?_toDigits_ne positive isFirst

theorem digitsValue_ofNat (value : Nat) : digitsValue (Text.ofNat value) = value := by
  have folded := Nat.ofDigitChars_ten_toDigits (n := value)
  rw [Nat.ofDigitChars_eq_foldl] at folded
  rw [digitsValue, Text.ofNat, ofChars, List.foldl_map]
  conv_rhs => rw [← folded]
  simp only [Nat.mul_comm]
  rfl

theorem readWhole_ofNat (value : Nat) (ends : EndsNumber rest) :
    readWhole (Text.ofNat value ++ rest) = some (Text.ofNat value, rest) := by
  rcases Nat.eq_zero_or_pos value with rfl | positive
  · rfl
  · have span : (Text.ofNat value ++ rest).span CodePoint.isDigit = (Text.ofNat value, rest) :=
      span_isDigit (fun _ => isDigit_of_mem_ofNat) ends
    obtain ⟨first, digits, isDigits, _, noZero⟩ := exists_cons_ofNat value
    rw [isDigits] at span ⊢
    unfold readWhole
    split
    · next isZero =>
        cases isZero
        exact absurd rfl (noZero positive)
    · rw [span]

theorem numberOfParts_ofNat (negative : Bool) (value : Nat) :
    numberOfParts negative (Text.ofNat value) none none =
      .int (if negative then -(value : Int) else value) := by
  simp only [numberOfParts, Option.isNone_none, Bool.and_self, if_true, digitsValue_ofNat]

/-- The reader takes as many digits as the integer has. -/
def Limits.Admits (limits : Limits) (value : Int) : Prop :=
  exceeds (Text.ofNat value.natAbs).length limits.digits = false

theorem readMagnitude_ofNat (negative : Bool) (start : Text) {value : Nat}
    (admits : limits.Admits value) (ends : EndsNumber rest) :
    readMagnitude limits negative start (Text.ofNat value ++ rest) =
      .ok (.int (if negative then -(value : Int) else value), rest) := by
  have inBounds : exceeds (Text.ofNat value).length limits.digits = false := admits
  simp only [readMagnitude, readWhole_ofNat value ends, readFraction_of_ends ends,
    readExponent_of_ends ends, inBounds, numberOfParts_ofNat]
  simp

theorem isPrefixOf?_of_startsNumber {word : Text}
    (letter : ∃ start ∈ word.head?, ¬ StartsNumber start) {first : CodePoint}
    (number : StartsNumber first) : word.isPrefixOf? (first :: text) = none := by
  refine Option.eq_none_iff_forall_ne_some.mpr fun after found => ?_
  have same := List.append_eq_of_isPrefixOf?_eq_some found
  obtain ⟨start, isHead, noNumber⟩ := letter
  obtain ⟨others, rfl⟩ := List.head?_eq_some_iff.mp isHead
  cases same
  exact noNumber number

theorem readWord_of_startsNumber {first : CodePoint} (number : StartsNumber first) :
    readWord (first :: text) = none := by
  refine List.findSome?_eq_none_iff.mpr ?_
  rintro ⟨word, value⟩ member
  have letters : ∀ word ∈ words.map Prod.fst, ∃ start ∈ word.head?, ¬ StartsNumber start := by
    decide
  have letter := letters word (List.mem_map_of_mem member)
  exact Option.map_eq_none_iff.mpr (isPrefixOf?_of_startsNumber letter number)

theorem exists_cons_intLiteral (value : Int) :
    ∃ first digits, intLiteral value = first :: digits ∧ StartsNumber first := by
  cases value with
  | ofNat value =>
      obtain ⟨first, digits, isDigits, isDigit, _⟩ := exists_cons_ofNat value
      exact ⟨first, digits, isDigits, .inl isDigit⟩
  | negSucc value => exact ⟨'-', Text.ofNat (value + 1), rfl, .inr rfl⟩

theorem readNumber_intLiteral {value : Int} (admits : limits.Admits value)
    (ends : EndsNumber rest) :
    readNumber limits (intLiteral value ++ rest) = .ok (.int value, rest) := by
  cases value with
  | ofNat value =>
      have read := readMagnitude_ofNat false (Text.ofNat value ++ rest) admits ends
      obtain ⟨first, digits, isDigits, isDigit, _⟩ := exists_cons_ofNat value
      rw [intLiteral]
      rw [isDigits] at read ⊢
      unfold readNumber
      split
      · next isSign =>
          cases isSign
          cases isDigit
      · exact read
  | negSucc value =>
      have isLiteral : intLiteral (.negSucc value) = CodePoint.char '-' :: Text.ofNat (value + 1) :=
        rfl
      have magnitude : limits.Admits (value + 1 : Nat) := admits
      have read := readMagnitude_ofNat true (intLiteral (.negSucc value) ++ rest) magnitude ends
      obtain ⟨first, digits, isDigits, isDigit, _⟩ := exists_cons_ofNat (value + 1)
      have noWord : ("Infinity" : Text).isPrefixOf? (Text.ofNat (value + 1) ++ rest) = none := by
        rw [isDigits]
        exact isPrefixOf?_of_startsNumber (by decide) (.inl isDigit)
      rw [isLiteral, List.cons_append] at read ⊢
      unfold readNumber
      split
      · next isSign =>
          cases isSign
          rw [noWord]
          exact read
      · next noSign => exact absurd rfl (noSign _)

end PageCompiler.Json
