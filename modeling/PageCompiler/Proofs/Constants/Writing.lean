/-
  Which constants are written, and that these are read back.

  An integer is written if it has at most `maxDigits` digits, and a container if all that it holds is. So
  one list decides about a value, that of its integers (`write_eq`). Not every constant that can be put
  together is written (`not_all_written`). But a reader with a bound gives no integer beyond it
  (`admits_of_read`), and so the literals of what is in a document need no test.
-/
import PageCompiler.Proofs.Constants.ReadBack

namespace PageCompiler.Json

open Text

variable {limits : Limits} {fuel depth : Nat} {text rest : Text}

/-! What is written. -/

/-- The integer has at most `maxDigits` digits. -/
def IsShort (number : Int) : Prop := number.natAbs < Nat.pow 10 maxDigits

theorem isShort_iff {number : Int} : IsShort number ↔ number.natAbs < Nat.pow 10 4300 := by
  have digits : 4300 = maxDigits := rfl
  rw [IsShort, digits]

instance : DecidablePred IsShort :=
  fun number => inferInstanceAs (Decidable (number.natAbs < Nat.pow 10 maxDigits))

theorem length_ofNat_le_iff {value digits : Nat} (positive : 0 < digits) :
    (Text.ofNat value).length ≤ digits ↔ value < Nat.pow 10 digits := by
  rw [Text.ofNat, ofChars, List.length_map]
  exact Nat.length_toDigits_le_iff (by decide) positive

/-- The text, if the condition for writing it holds. -/
def textIf (fits : Prop) [Decidable fits] (text : Text) : Except WriteFault Text :=
  if fits then .ok text else .error .tooLong

theorem writeInt_eq (value : Int) : writeInt value = textIf (IsShort value) (intLiteral value) := by
  have length := @length_ofNat_le_iff value.natAbs maxDigits (by decide)
  unfold writeInt textIf
  by_cases short : IsShort value
  · rw [if_pos short, if_neg (Nat.not_lt.mpr (length.mpr short))]
  · rw [if_neg short, if_pos (Nat.not_le.mp (length.not.mpr short))]

/-- Two parts are written together if both can be written. -/
theorem textIf_both {first others : Prop} [Decidable first] [Decidable others] (text more : Text)
    (join : Text → Text → Text) :
    (do
      let written ← textIf first text
      let rest ← textIf others more
      return join written rest) = textIf (first ∧ others) (join text more) := by
  by_cases isFirst : first <;> by_cases isOther : others <;>
    simp only [textIf, isFirst, isOther, and_self, and_false, false_and, if_true, if_false] <;> rfl

mutual

/-- A value is written as its literal if all its integers are short, and otherwise not at all. -/
theorem write_eq : ∀ value : Json,
    value.write = textIf (∀ number ∈ value.integers, IsShort number) value.literal
  | .null => rfl
  | .bool true => rfl
  | .bool false => rfl
  | .int value => by
      rw [write, writeInt_eq]
      simp only [integers, List.forall_mem_singleton, literal]
  | .float _ => rfl
  | .str _ => rfl
  | .arr [] => rfl
  | .arr (first :: rest) => by
      rw [write, write_eq first, writeItems_eq rest]
      refine (textIf_both _ _ fun written others => "[" ++ written ++ others ++ "]").trans ?_
      simp only [integers, itemsIntegers, List.forall_mem_append, literal]
  | .obj [] => rfl
  | .obj ((name, value) :: rest) => by
      rw [write, write_eq value, writeFields_eq rest]
      refine (textIf_both _ _ fun written others =>
        "\x7b" ++ stringLiteral name ++ ": " ++ written ++ others ++ "\x7d").trans ?_
      simp only [integers, fieldsIntegers, List.forall_mem_append, literal]

theorem writeItems_eq : ∀ items : List Json,
    writeItems items = textIf (∀ number ∈ itemsIntegers items, IsShort number) (itemsLiteral items)
  | [] => rfl
  | item :: rest => by
      rw [writeItems, write_eq item, writeItems_eq rest]
      refine (textIf_both _ _ fun written others => ", " ++ written ++ others).trans ?_
      simp only [itemsIntegers, List.forall_mem_append, itemsLiteral]

theorem writeFields_eq : ∀ fields : List (Text × Json), writeFields fields =
    textIf (∀ number ∈ fieldsIntegers fields, IsShort number) (fieldsLiteral fields)
  | [] => rfl
  | (name, value) :: rest => by
      rw [writeFields, write_eq value, writeFields_eq rest]
      refine (textIf_both _ _ fun written others =>
        ", " ++ stringLiteral name ++ ": " ++ written ++ others).trans ?_
      simp only [fieldsIntegers, List.forall_mem_append, fieldsLiteral]

end

theorem write_of_isShort {value : Json} (short : ∀ number ∈ value.integers, IsShort number) :
    value.write = .ok value.literal := by
  rw [write_eq, textIf, if_pos short]

theorem write_of_not_isShort {value : Json} {number : Int} (member : number ∈ value.integers)
    (long : ¬ IsShort number) : value.write = .error .tooLong := by
  rw [write_eq, textIf, if_neg fun short => long (short number member)]

/-! What a reader gives. -/

theorem exceeds_mono {amount other : Nat} {bound : Option Nat} (le : amount ≤ other)
    (inBounds : exceeds other bound = false) : exceeds amount bound = false := by
  cases bound with
  | none => rfl
  | some bound =>
      have noMore : ¬ bound < other := of_decide_eq_false inBounds
      exact decide_eq_false (by omega)

theorem code_le_of_isDigit {point : CodePoint} (digit : point.isDigit = true) :
    point.code ≤ 57 := by
  cases point with
  | char c =>
      have bounds := Char.isDigit_iff_toNat.mp digit
      exact bounds.2
  | surrogate _ => cases digit

theorem foldl_digits_lt {digits : Text} (all : ∀ point ∈ digits, point.isDigit = true)
    (value : Nat) : digits.foldl (fun value digit => value * 10 + (digit.code - 48)) value <
      (value + 1) * Nat.pow 10 digits.length := by
  induction digits generalizing value with
  | nil =>
      show value < (value + 1) * 1
      omega
  | cons point rest ih =>
      obtain ⟨isDigit, others⟩ := List.forall_mem_cons.mp all
      have small := code_le_of_isDigit isDigit
      calc rest.foldl _ (value * 10 + (point.code - 48))
        _ < (value * 10 + (point.code - 48) + 1) * Nat.pow 10 rest.length := ih others _
        _ ≤ (value + 1) * 10 * Nat.pow 10 rest.length := Nat.mul_le_mul_right _ (by omega)
        _ = (value + 1) * Nat.pow 10 (rest.length + 1) := by
          rw [Nat.mul_assoc]
          exact congrArg _ Nat.pow_succ'.symm

theorem digitsValue_lt {digits : Text} (all : ∀ point ∈ digits, point.isDigit = true) :
    digitsValue digits < Nat.pow 10 digits.length := by
  have bound := foldl_digits_lt all 0
  rwa [Nat.zero_add, Nat.one_mul] at bound

theorem readWhole_digits {whole : Text} (read : readWhole text = some (whole, rest)) :
    whole ≠ [] ∧ ∀ point ∈ whole, point.isDigit = true := by
  unfold readWhole at read
  split at read
  · cases read
    decide
  · split at read
    · cases read
    · next digits after filled spans =>
        cases read
        refine ⟨fun isEmpty => filled isEmpty, fun point member => ?_⟩
        rw [List.span_eq_takeWhile_dropWhile] at spans
        cases spans
        exact List.mem_takeWhile_imp member

/-- The digits that are read are at least those of the number. -/
theorem length_ofNat_digitsValue_le {whole : Text}
    (read : readWhole text = some (whole, rest)) :
    (Text.ofNat (digitsValue whole)).length ≤ whole.length := by
  obtain ⟨filled, digits⟩ := readWhole_digits read
  exact (length_ofNat_le_iff (List.length_pos_of_ne_nil filled)).mpr (digitsValue_lt digits)

theorem admits_readMagnitude {negative : Bool} {start : Text} {value : Json}
    (read : readMagnitude limits negative start text = .ok (value, rest)) :
    ∀ number ∈ value.integers, limits.Admits number := by
  unfold readMagnitude at read
  split at read
  · cases read
  · next whole after isWhole =>
      dsimp only at read
      split at read
      · cases read
      · next inBounds =>
          cases read
          unfold numberOfParts
          split
          · next isInt =>
              have bounded : exceeds whole.length limits.digits = false := by
                simpa [isInt] using inBounds
              intro number member
              have sameAbs : number.natAbs = digitsValue whole := by
                rw [List.mem_singleton.mp member]
                split <;> simp
              refine exceeds_mono ?_ bounded
              rw [sameAbs]
              exact length_ofNat_digitsValue_le isWhole
          · simp [integers]

theorem admits_readNumber {value : Json} (read : readNumber limits text = .ok (value, rest)) :
    ∀ number ∈ value.integers, limits.Admits number := by
  unfold readNumber at read
  split at read
  · split at read
    · cases read
      simp [integers]
    · exact admits_readMagnitude read
  · exact admits_readMagnitude read

theorem admits_readScalar {value : Json} (read : readScalar limits text = .ok (value, rest)) :
    ∀ number ∈ value.integers, limits.Admits number := by
  unfold readScalar at read
  split at read
  · split at read
    · cases read
    · cases read
      simp [integers]
  · split at read
    · next found isWord =>
        cases read
        obtain ⟨⟨word, value⟩, member, isValue⟩ := List.exists_of_findSome?_eq_some isWord
        obtain ⟨_, _, same⟩ := Option.map_eq_some_iff.mp isValue
        cases same
        have none : ∀ entry ∈ words, entry.2.integers = [] := by simp [words, integers]
        simp [none _ member]
    · exact admits_readNumber read

theorem admits_readEmpty {value given : Json} (empty : given.integers = [])
    (read : readEmpty limits depth given text = .ok (value, rest)) :
    ∀ number ∈ value.integers, limits.Admits number := by
  unfold readEmpty at read
  split at read
  · cases read
  · cases read
    simp [empty]

/-- With this much fuel a reader gives only integers that it takes. -/
structure ReadsAdmitted (limits : Limits) (fuel : Nat) : Prop where
  value : ∀ {depth text value rest}, readValue limits fuel depth text = .ok (value, rest) →
    ∀ number ∈ value.integers, limits.Admits number
  items : ∀ {depth text items rest}, readItems limits fuel depth text = .ok (items, rest) →
    ∀ number ∈ itemsIntegers items, limits.Admits number
  fields : ∀ {depth text fields rest}, readFields limits fuel depth text = .ok (fields, rest) →
    ∀ number ∈ fieldsIntegers fields, limits.Admits number

theorem ReadsAdmitted.succ_value (below : ReadsAdmitted limits fuel) {value : Json}
    (read : readValue limits (fuel + 1) depth text = .ok (value, rest)) :
    ∀ number ∈ value.integers, limits.Admits number := by
  rw [readValue] at read
  split at read
  · split at read
    · exact admits_readEmpty rfl read
    · split at read
      · cases read
      · split at read
        · cases read
        · next inside =>
            cases read
            exact below.items inside
  · split at read
    · exact admits_readEmpty rfl read
    · split at read
      · cases read
      · split at read
        · cases read
        · next inside =>
            cases read
            exact below.fields inside
  · exact admits_readScalar read

theorem ReadsAdmitted.succ_items (below : ReadsAdmitted limits fuel) {items : List Json}
    (read : readItems limits (fuel + 1) depth text = .ok (items, rest)) :
    ∀ number ∈ itemsIntegers items, limits.Admits number := by
  rw [readItems] at read
  split at read
  · cases read
  · next first =>
      split at read
      · cases read
        exact List.forall_mem_append.mpr ⟨below.value first, List.forall_mem_nil _⟩
      · split at read
        · cases read
        · next others =>
            cases read
            exact List.forall_mem_append.mpr ⟨below.value first, below.items others⟩
      · cases read

theorem ReadsAdmitted.succ_fields (below : ReadsAdmitted limits fuel)
    {fields : List (Text × Json)}
    (read : readFields limits (fuel + 1) depth text = .ok (fields, rest)) :
    ∀ number ∈ fieldsIntegers fields, limits.Admits number := by
  rw [readFields] at read
  split at read
  · split at read
    · cases read
    · split at read
      · split at read
        · cases read
        · next first =>
            split at read
            · cases read
              exact List.forall_mem_append.mpr ⟨below.value first, List.forall_mem_nil _⟩
            · split at read
              · cases read
              · next others =>
                  cases read
                  exact List.forall_mem_append.mpr ⟨below.value first, below.fields others⟩
            · cases read
      · cases read
  · cases read

theorem readsAdmitted (fuel : Nat) : ReadsAdmitted limits fuel := by
  induction fuel with
  | zero => exact ⟨nofun, nofun, nofun⟩
  | succ fuel below => exact ⟨below.succ_value, below.succ_items, below.succ_fields⟩

/-- A reader gives only integers that it takes. -/
theorem admits_of_read {value : Json} (given : read limits text = .ok value) :
    ∀ number ∈ value.integers, limits.Admits number := by
  unfold read at given
  split at given
  · cases given
  · split at given
    · cases given
    · next inside =>
        split at given
        · cases given
          exact (readsAdmitted _).value inside
        · cases given

theorem admits_iff (bounded : limits.digits = some maxDigits) {number : Int} :
    limits.Admits number ↔ IsShort number := by
  unfold Limits.Admits
  rw [bounded]
  refine Iff.trans ?_ (length_ofNat_le_iff (by decide))
  exact decide_eq_false_iff_not.trans Nat.not_lt

theorem mem_fieldsIntegers {number : Int} {fields : List (Text × Json)} :
    number ∈ fieldsIntegers fields ↔ ∃ field ∈ fields, number ∈ field.2.integers := by
  induction fields with
  | nil => simp [fieldsIntegers]
  | cons field rest ih => simp [fieldsIntegers, ih]

mutual

/-- Without repeated fields a value holds no other integers. -/
theorem integers_distinct : ∀ value : Json, value.distinct.integers ⊆ value.integers
  | .null => List.Subset.refl _
  | .bool _ => List.Subset.refl _
  | .int _ => List.Subset.refl _
  | .float _ => List.Subset.refl _
  | .str _ => List.Subset.refl _
  | .arr items => integers_distinctItems items
  | .obj fields => by
      intro number member
      obtain ⟨field, kept, inField⟩ := mem_fieldsIntegers.mp member
      have given : field ∈ distinctFields fields :=
        Table.mem_of_get?_ofList (Table.mem_entries_iff.mp kept)
      exact integers_distinctFields fields (mem_fieldsIntegers.mpr ⟨field, given, inField⟩)

theorem integers_distinctItems : ∀ items : List Json,
    itemsIntegers (distinctItems items) ⊆ itemsIntegers items
  | [] => List.Subset.refl _
  | item :: rest => List.append_subset.mpr
      ⟨List.subset_append_of_subset_left _ (integers_distinct item),
        List.subset_append_of_subset_right _ (integers_distinctItems rest)⟩

theorem integers_distinctFields : ∀ fields : List (Text × Json),
    fieldsIntegers (distinctFields fields) ⊆ fieldsIntegers fields
  | [] => List.Subset.refl _
  | (_, value) :: rest => List.append_subset.mpr
      ⟨List.subset_append_of_subset_left _ (integers_distinct value),
        List.subset_append_of_subset_right _ (integers_distinctFields rest)⟩

end

/-- What a reader with the same bound gives is written. -/
theorem write_of_read {value : Json} (bounded : limits.digits = some maxDigits)
    (given : read limits text = .ok value) :
    value.distinct.write = .ok value.distinct.literal := by
  refine write_of_isShort fun number member => (admits_iff bounded).mp ?_
  exact admits_of_read given number (integers_distinct value member)

/-! Writing and reading. -/

/-- A constant is written if all its integers have at most 4300 digits, and otherwise not at all. What
    is written consists of printable ASCII. A reader that takes such integers reads it as the constant,
    the names of objects in their order. -/
theorem write_readsBack {value : Json} (isExact : value.isExact = true) :
    ((∀ number ∈ value.integers, number.natAbs < Nat.pow 10 4300) →
      value.write = .ok value.literal ∧ Printable value.literal ∧
        read { digits := some 4300 } value.literal = .ok value ∧
        ofText? value.literal = some value) ∧
    ((∃ number ∈ value.integers, Nat.pow 10 4300 ≤ number.natAbs) →
      value.write = .error .tooLong) := by
  simp only [← isShort_iff]
  constructor
  · intro short
    refine ⟨write_of_isShort short, printable_literal value, ?_, ofText?_literal isExact⟩
    exact read_literal isExact rfl fun number member => (admits_iff rfl).mpr (short number member)
  · rintro ⟨number, member, long⟩
    exact write_of_not_isShort member (isShort_iff.not.mpr (Nat.not_lt.mpr long))

/-- Escapes, a character beyond U+FFFF, a number of many digits and objects in one another. -/
def mixed : Json := .obj [
  ("z", .arr [.int (-12345678901234567890123), .int 0, .null, .bool true, .arr []]),
  ("a\x22\\\n\u2028😀", .obj [("", .str "<\x00/>"), ("k", .obj [])])]

theorem write_readsBack_mixed : mixed.isExact = true ∧
    (∀ number ∈ mixed.integers, number.natAbs < Nat.pow 10 4300) ∧
    mixed.write = .ok mixed.literal ∧ Printable mixed.literal ∧
    read { digits := some 4300 } mixed.literal = .ok mixed ∧
    ofText? mixed.literal = some mixed ∧
    mixed.literal = "\x7b\x22z\x22: [-12345678901234567890123, 0, null, true, []], "
      ++ "\x22a\\\x22\\\\\\n\\u2028\\ud83d\\ude00\x22: "
      ++ "\x7b\x22\x22: \x22<\\u0000/>\x22, \x22k\x22: \x7b\x7d\x7d\x7d" := by
  have isExact : mixed.isExact = true := by decide
  have short : ∀ number ∈ mixed.integers, number.natAbs < Nat.pow 10 4300 := by decide +kernel
  obtain ⟨written, printable, readBack, isText⟩ := (write_readsBack isExact).1 short
  exact ⟨isExact, short, written, printable, readBack, isText, by decide +kernel⟩

/-- Ten to the power of 4300 has one digit too many. -/
theorem not_all_written : ¬ ∀ value : Json, value.isExact = true →
    ∃ text, value.write = .ok text ∧ Printable text ∧ ofText? text = some value := by
  intro all
  obtain ⟨text, written, _⟩ := all (.int (Nat.pow 10 4300 : Nat)) rfl
  have long : ¬ IsShort (Nat.pow 10 4300 : Nat) := by decide +kernel
  rw [write_of_not_isShort (List.mem_singleton_self _) long] at written
  cases written

end PageCompiler.Json
