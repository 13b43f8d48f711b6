/-
  Reading a string literal gives back the text that it was written for.

  Each escape is undone on its own, but two that write a high and a low unit are joined: a text that
  holds the two surrogates of a pair side by side comes back with the character of the pair
  (`Text.joined`). The UTF-16 units are the same, and texts of characters only come back as they are.
-/
import Mathlib.Data.List.Induction
import Mathlib.Tactic.SplitIfs
import PageCompiler.Json.Reader

namespace PageCompiler

namespace CodePoint

theorem ofCode_code (point : CodePoint) : ofCode point.code = point := by
  cases point with
  | char c =>
      have valid : c.toNat.isValidChar := c.valid
      simp [ofCode, ofCode?, code, valid, Char.ofNat_toNat]
  | surrogate offset =>
      have invalid : ¬ (0xd800 + offset.val).isValidChar := by
        have bound := offset.isLt
        unfold Nat.isValidChar
        omega
      simp [ofCode, ofCode?, code, invalid]

theorem code_ofCode {value : Nat} (bound : value < 0x110000) : (ofCode value).code = value := by
  by_cases valid : value.isValidChar
  · have isChar : Char.ofNat value = Char.ofNatAux value valid := dif_pos valid
    rw [ofCode, ofCode?, if_pos valid, Option.getD_some, isChar]
    rfl
  · have inRange : value - 0xd800 < 0x800 ∧ 0xd800 ≤ value := by
      unfold Nat.isValidChar at valid
      omega
    simp only [ofCode, ofCode?, valid, inRange.1, if_false, dif_pos, Option.getD_some, code]
    omega

theorem code_lt (point : CodePoint) : point.code < 0x110000 := by
  cases point with
  | char c =>
      have valid : c.toNat.isValidChar := c.valid
      unfold Nat.isValidChar at valid
      simp only [code]
      omega
  | surrogate offset =>
      have bound := offset.isLt
      simp only [code]
      omega

/-- The UTF-16 units of a code point. A surrogate is a unit of its own. -/
def units (point : CodePoint) : List Nat :=
  if point.code < 0x10000 then [point.code]
  else [0xd800 + (point.code - 0x10000) / 0x400, 0xdc00 + (point.code - 0x10000) % 0x400]

end CodePoint

namespace Text

variable {point high low : CodePoint} {text rest : Text} {unit : Nat}

theorem isHighUnit_iff : isHighUnit unit = true ↔ 0xd800 ≤ unit ∧ unit < 0xdc00 := by
  simp [isHighUnit]

theorem isLowUnit_iff : isLowUnit unit = true ↔ 0xdc00 ≤ unit ∧ unit < 0xe000 := by
  simp [isLowUnit]

theorem isHighUnit_eq_false_iff : isHighUnit unit = false ↔ unit < 0xd800 ∨ 0xdc00 ≤ unit := by
  rw [Bool.eq_false_iff, ne_eq, isHighUnit_iff]
  omega

theorem isLowUnit_eq_false_iff : isLowUnit unit = false ↔ unit < 0xdc00 ∨ 0xe000 ≤ unit := by
  rw [Bool.eq_false_iff, ne_eq, isLowUnit_iff]
  omega

/-- No character has the number of a unit of a pair. -/
theorem not_unit_char (c : Char) :
    (CodePoint.char c).code < 0xd800 ∨ 0xe000 ≤ (CodePoint.char c).code := by
  have valid : c.toNat.isValidChar := c.valid
  unfold Nat.isValidChar at valid
  simp only [CodePoint.code]
  omega

theorem exists_surrogate (unit : isHighUnit point.code = true ∨ isLowUnit point.code = true) :
    ∃ offset, point = .surrogate offset := by
  cases point with
  | char c =>
      rw [isHighUnit_iff, isLowUnit_iff] at unit
      have := not_unit_char c
      omega
  | surrogate offset => exact ⟨offset, rfl⟩

theorem code_pair (isHigh : isHighUnit high.code = true) (isLow : isLowUnit low.code = true) :
    (CodePoint.ofCode (pairedCode high.code low.code)).code = pairedCode high.code low.code ∧
      0x10000 ≤ pairedCode high.code low.code := by
  rw [isHighUnit_iff] at isHigh
  rw [isLowUnit_iff] at isLow
  refine ⟨CodePoint.code_ofCode ?_, ?_⟩ <;> unfold pairedCode <;> omega

/-- The text with the character of the pair for every high surrogate that a low one follows. -/
def joined (text : Text) : Text := (joinPairs (text.map CodePoint.code)).map .ofCode

theorem joined_pair (isHigh : isHighUnit high.code = true) (isLow : isLowUnit low.code = true) :
    joined (high :: low :: rest) = .ofCode (pairedCode high.code low.code) :: joined rest := by
  simp [joined, joinPairs, isHigh, isLow]

theorem joined_cons (apart : isHighUnit point.code = true → ∀ low ∈ text.head?,
    isLowUnit low.code = false) : joined (point :: text) = point :: joined text := by
  cases text with
  | nil => simp [joined, joinPairs, CodePoint.ofCode_code]
  | cons next text =>
      have single : ¬ (isHighUnit point.code && isLowUnit next.code) = true := by
        rintro both
        obtain ⟨isHigh, isLow⟩ := Bool.and_eq_true_iff.mp both
        rw [apart isHigh next rfl] at isLow
        cases isLow
      simp [joined, joinPairs, single, CodePoint.ofCode_code]

theorem joined_of_isScalar (scalar : isScalar text = true) : joined text = text := by
  induction text with
  | nil => rfl
  | cons point text ih =>
      obtain ⟨first, later⟩ := List.forall_mem_cons.mp (List.all_eq_true.mp scalar)
      cases point with
      | surrogate _ => cases first
      | char c =>
          have single : isHighUnit (CodePoint.char c).code = false := by
            rw [isHighUnit_eq_false_iff]
            exact (not_unit_char c).imp id fun above => by omega
          rw [joined_cons (by simp [single]), ih (List.all_eq_true.mpr later)]

/-- The UTF-16 units of a text. -/
def units (text : Text) : List Nat := text.flatMap CodePoint.units

theorem units_pair (isHigh : isHighUnit high.code = true) (isLow : isLowUnit low.code = true) :
    (CodePoint.ofCode (pairedCode high.code low.code)).units = high.units ++ low.units := by
  obtain ⟨isCode, above⟩ := code_pair isHigh isLow
  rw [isHighUnit_iff] at isHigh
  rw [isLowUnit_iff] at isLow
  have highAlone : high.code < 0x10000 := by omega
  have lowAlone : low.code < 0x10000 := by omega
  have front : 0xd800 + (pairedCode high.code low.code - 0x10000) / 0x400 = high.code := by
    unfold pairedCode
    omega
  have back : 0xdc00 + (pairedCode high.code low.code - 0x10000) % 0x400 = low.code := by
    unfold pairedCode
    omega
  rw [CodePoint.units, isCode, if_neg (Nat.not_lt.mpr above), front, back, CodePoint.units,
    if_pos highAlone, CodePoint.units, if_pos lowAlone]
  rfl

/-- The character of a pair has the units of its surrogates. -/
theorem units_joined (text : Text) : (joined text).units = text.units := by
  -- Two code points are taken at once where they make a pair.
  induction text using List.twoStepInduction with
  | nil => rfl
  | singleton point =>
      rw [joined_cons (by simp)]
      rfl
  | cons_cons high low rest ih ihLow =>
      by_cases pair : isHighUnit high.code = true ∧ isLowUnit low.code = true
      · obtain ⟨isHigh, isLow⟩ := pair
        simp only [units, joined_pair isHigh isLow, List.flatMap_cons, units_pair isHigh isLow,
          List.append_assoc]
        exact congrArg (fun after => high.units ++ (low.units ++ after)) ih
      · have apart : isHighUnit high.code = true → ∀ next ∈ (low :: rest).head?,
            isLowUnit next.code = false := by
          rintro isHigh next ⟨⟩
          exact Bool.eq_false_iff.mpr fun isLow => pair ⟨isHigh, isLow⟩
        rw [joined_cons apart]
        exact congrArg (high.units ++ ·) (ihLow low)

/-- Joining makes no low surrogate the first code point. -/
theorem exists_head_joined (alone : isLowUnit point.code = false) :
    ∃ first rest, joined (point :: text) = first :: rest ∧ isLowUnit first.code = false := by
  by_cases pair : isHighUnit point.code = true ∧ ∃ low ∈ text.head?, isLowUnit low.code = true
  · obtain ⟨isHigh, low, isHead, isLow⟩ := pair
    obtain ⟨rest, rfl⟩ := List.head?_eq_some_iff.mp isHead
    obtain ⟨isCode, above⟩ := code_pair isHigh isLow
    refine ⟨_, _, joined_pair isHigh isLow, ?_⟩
    rw [isLowUnit_eq_false_iff, isCode]
    omega
  · refine ⟨_, _, joined_cons fun isHigh low isHead => ?_, alone⟩
    exact Bool.eq_false_iff.mpr fun isLow => pair ⟨isHigh, low, isHead, isLow⟩

end Text

namespace Json

open Text

variable {point : CodePoint} {text rest : Text} {unit : Nat} {body : ReadString}

theorem hexValue?_hexDigit_mod (value : Nat) : hexValue? (hexDigit value) = some (value % 16) := by
  have digit := hexValue?_hexDigit (value % 16) (Nat.mod_lt value (by decide))
  rwa [hexDigit, Nat.mod_mod] at digit

theorem readStringBody_escapeUnit (bound : unit < 0x10000) (ne_nil : rest ≠ []) :
    readStringBody (escapeUnit unit ++ rest) =
      consReadUnit unit (startsWithUnit rest) (readStringBody rest) := by
  have digits : unit? (hexDigit (unit / 16 / 16 / 16)) (hexDigit (unit / 16 / 16))
      (hexDigit (unit / 16)) (hexDigit unit) = some unit := by
    simp only [unit?, hexValue?_hexDigit_mod, Option.bind_eq_bind, Option.bind_some, Option.pure_def,
      Option.some.injEq]
    omega
  have filled : rest.isEmpty = false := by simpa using ne_nil
  change readStringBody ('\\' :: 'u' :: _ :: _ :: _ :: _ :: rest) = _
  rw [readStringBody]
  simp only [digits, filled]
  rfl

theorem consReadUnit_of_alone (alone : isHighUnit unit = false) (nextIsEscaped : Bool) :
    consReadUnit unit nextIsEscaped body = consRead (.ofCode unit) body := by
  cases body with
  | error _ => rfl
  | ok read =>
      obtain ⟨points, after⟩ := read
      cases points with
      | nil => rfl
      | cons first points => simp [consReadUnit, consUnit, consRead, alone]

/-- Two escapes that follow each other and write a pair. -/
theorem consReadUnit_pair {high low : Nat} (isHigh : isHighUnit high = true)
    (isLow : isLowUnit low = true) (nextIsEscaped : Bool) :
    consReadUnit high true (consReadUnit low nextIsEscaped body) =
      consRead (.ofCode (pairedCode high low)) body := by
  have bounds := isLowUnit_iff.mp isLow
  have isCode : (CodePoint.ofCode low).code = low := CodePoint.code_ofCode (by omega)
  rw [consReadUnit_of_alone (isHighUnit_eq_false_iff.mpr (.inr bounds.1))]
  cases body with
  | error _ => rfl
  | ok read => simp [consReadUnit, consUnit, consRead, isHigh, isLow, isCode]

theorem readStringBody_plain (noQuote : point ≠ '\x22') (noEscape : point ≠ '\\')
    (noControl : 0x20 ≤ point.code) :
    readStringBody (point :: rest) = consRead point (readStringBody rest) := by
  rw [readStringBody.eq_4 _ _ (fun _ _ _ _ _ isEscape => absurd isEscape noEscape)
    (fun _ _ isEscape => absurd isEscape noEscape), if_neg noQuote, if_neg noEscape, if_neg (by omega)]

/-- A code point that is written by an escape of its own or as it is, or by the units of a pair. -/
theorem readStringBody_escapePoint (alone : isHighUnit point.code = false) (ne_nil : rest ≠ []) :
    readStringBody (escapePoint point ++ rest) = consRead point (readStringBody rest) := by
  unfold escapePoint
  split_ifs with quote escape feed carriage tab back form printable basic
  · subst quote; rfl
  · subst escape; rfl
  · subst feed; rfl
  · subst carriage; rfl
  · subst tab; rfl
  · subst back; rfl
  · subst form; rfl
  · exact readStringBody_plain quote escape printable.1
  · rw [readStringBody_escapeUnit basic ne_nil, consReadUnit_of_alone alone, CodePoint.ofCode_code]
  · have bound := point.code_lt
    have isHigh : isHighUnit (0xd800 + (point.code - 0x10000) / 0x400) = true := by
      rw [isHighUnit_iff]
      omega
    have isLow : isLowUnit (0xdc00 + (point.code - 0x10000) % 0x400) = true := by
      rw [isLowUnit_iff]
      omega
    have isPair : pairedCode (0xd800 + (point.code - 0x10000) / 0x400)
        (0xdc00 + (point.code - 0x10000) % 0x400) = point.code := by
      unfold pairedCode
      omega
    rw [List.append_assoc,
      readStringBody_escapeUnit (by omega) (by simp [escapeUnit, ofString, ofChars]),
      readStringBody_escapeUnit (by omega) ne_nil]
    refine (consReadUnit_pair isHigh isLow _).trans ?_
    rw [isPair, CodePoint.ofCode_code]

theorem escapePoint_surrogate (offset : Fin 0x800) :
    escapePoint (.surrogate offset) = escapeUnit (CodePoint.surrogate offset).code := by
  have bound := offset.isLt
  have notPrintable : ¬ (0x20 ≤ 0xd800 + offset.val ∧ 0xd800 + offset.val ≤ 0x7e) := by omega
  have basic : 0xd800 + offset.val < 0x10000 := by omega
  simp [escapePoint, CodePoint.code, notPrintable, basic]

/-- What is read after the escape of a high surrogate decides whether it is joined. -/
theorem consUnit_joined (isHigh : isHighUnit point.code = true) :
    consUnit point.code (startsWithUnit (text.flatMap escapePoint ++ CodePoint.char '\x22' :: rest))
      (joined text) = joined (point :: text) := by
  cases text with
  | nil => rfl
  | cons next text =>
      by_cases isLow : isLowUnit next.code = true
      · have bounds := isLowUnit_iff.mp isLow
        have notHigh : isHighUnit next.code = false := isHighUnit_eq_false_iff.mpr (.inr bounds.1)
        obtain ⟨offset, rfl⟩ := exists_surrogate (.inr isLow)
        have escaped : startsWithUnit ((.surrogate offset :: text).flatMap escapePoint ++
            CodePoint.char '\x22' :: rest) = true := by
          rw [List.flatMap_cons, escapePoint_surrogate]
          rfl
        rw [joined_pair isHigh isLow, joined_cons (by simp [notHigh]), escaped]
        simp [consUnit, isHigh, isLow]
      · rw [Bool.not_eq_true] at isLow
        obtain ⟨first, others, isJoined, notLow⟩ := exists_head_joined isLow
        rw [@joined_cons point (next :: text) (by simp [isLow]), isJoined]
        simp [consUnit, notLow, CodePoint.ofCode_code]

theorem readStringBody_flatMap (text rest : Text) :
    readStringBody (text.flatMap escapePoint ++ CodePoint.char '\x22' :: rest) =
      .ok (joined text, rest) := by
  induction text with
  | nil => rfl
  | cons point text ih =>
      rw [List.flatMap_cons, List.append_assoc]
      by_cases isHigh : isHighUnit point.code = true
      · have bounds := isHighUnit_iff.mp isHigh
        obtain ⟨offset, rfl⟩ := exists_surrogate (.inl isHigh)
        rw [escapePoint_surrogate, readStringBody_escapeUnit (by omega) (by simp), ih,
          ← consUnit_joined isHigh]
        rfl
      · rw [Bool.not_eq_true] at isHigh
        rw [readStringBody_escapePoint isHigh (by simp), ih, joined_cons (by simp [isHigh])]
        rfl

/-- A string literal is read as the text that it was written for, surrogates joined. -/
theorem read_stringLiteral (text : Text) :
    read {} (stringLiteral text) = .ok (.str (joined text)) := by
  have body := readStringBody_flatMap text []
  have scalar : readScalar {} (stringLiteral text) = .ok (.str (joined text), []) := by
    change readScalar {} ('\x22' :: (text.flatMap escapePoint ++ [CodePoint.char '\x22'])) = _
    rw [readScalar, readString, body]
    rfl
  have value : readValue {} (2 * (stringLiteral text).length + 2) 0 (stringLiteral text) =
      readScalar {} (stringLiteral text) := rfl
  have noMark : ¬ (stringLiteral text).head? = some (CodePoint.char '\ufeff') :=
    (by decide : ¬ some (CodePoint.char '\x22') = some (CodePoint.char '\ufeff'))
  rw [read]
  refine (if_neg noMark).trans ?_
  rw [value, scalar]
  rfl

end Json

end PageCompiler
