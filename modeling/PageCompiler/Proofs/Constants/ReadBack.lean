/-
  The literal of a constant is read as the constant, by a reader that takes its integers and containers
  of any depth.

  A value is read back where it stands: behind blanks, in a container, in front of whatever comes next,
  as long as that is no more of a number (`ReadsBack`). Containers hand this on from their members, and
  the printer writes each member behind a blank, so nothing but numbers cares for what follows. As many
  steps as the literal has code points are enough for the reader.

  A double is left out: only its shortest digits are written. So are strings with surrogates, two of
  which may be joined, and objects that repeat a name, of which one value counts.
-/
import PageCompiler.Proofs.Constants.Numbers
import PageCompiler.Proofs.Constants.Printable
import PageCompiler.Proofs.StringLiterals
import PageCompiler.Proofs.TableLaws

namespace PageCompiler.Json

open Text

variable {limits : Limits} {fuel depth : Nat} {text rest : Text}

mutual

/-- Whether a value is written exactly: it holds no doubles, its strings and names hold characters
    only, and no object names a field twice. -/
def isExact : Json → Bool
  | .float _ => false
  | .str value => value.isScalar
  | .arr items => itemsAreExact items
  | .obj fields => (fields.map Prod.fst).Nodup && fieldsAreExact fields
  | _ => true

def itemsAreExact : List Json → Bool
  | [] => true
  | item :: rest => item.isExact && itemsAreExact rest

def fieldsAreExact : List (Text × Json) → Bool
  | [] => true
  | (name, value) :: rest => Text.isScalar name && value.isExact && fieldsAreExact rest

end

mutual

/-- The integers in a value. -/
def integers : Json → List Int
  | .int value => [value]
  | .arr items => itemsIntegers items
  | .obj fields => fieldsIntegers fields
  | _ => []

def itemsIntegers : List Json → List Int
  | [] => []
  | item :: rest => item.integers ++ itemsIntegers rest

def fieldsIntegers : List (Text × Json) → List Int
  | [] => []
  | (_, value) :: rest => value.integers ++ fieldsIntegers rest

end

theorem readScalar_word {word : Text} {value : Json} (member : (word, value) ∈ words) :
    readScalar limits (word ++ rest) = .ok (value, rest) := by
  simp only [words, List.mem_cons, List.not_mem_nil, or_false, Prod.mk.injEq] at member
  rcases member with ⟨rfl, rfl⟩ | ⟨rfl, rfl⟩ | ⟨rfl, rfl⟩ | ⟨rfl, rfl⟩ | ⟨rfl, rfl⟩ <;> rfl

theorem readScalar_intLiteral {value : Int} (admits : limits.Admits value)
    (ends : EndsNumber rest) :
    readScalar limits (intLiteral value ++ rest) = .ok (.int value, rest) := by
  obtain ⟨first, others, isLiteral, number⟩ := exists_cons_intLiteral value
  have read := readNumber_intLiteral admits ends
  rw [isLiteral] at read ⊢
  unfold readScalar
  split
  · next isQuote =>
      cases isQuote
      rcases number with digit | sign
      · cases digit
      · cases sign
  · rw [List.cons_append, readWord_of_startsNumber number]
    exact read

theorem stringLiteral_append (value rest : Text) : stringLiteral value ++ rest =
    CodePoint.char '\x22' :: (value.flatMap escapePoint ++ CodePoint.char '\x22' :: rest) := by
  have isLiteral : stringLiteral value =
      CodePoint.char '\x22' :: (value.flatMap escapePoint ++ [CodePoint.char '\x22']) := rfl
  simp [isLiteral]

theorem readString_flatMap {value : Text} (scalar : value.isScalar = true) :
    readString limits (value.flatMap escapePoint ++ CodePoint.char '\x22' :: rest) =
      .ok (value, rest) := by
  rw [readString, readStringBody_flatMap, joined_of_isScalar scalar]
  simp only [scalar, Bool.or_true, if_true]

theorem readScalar_stringLiteral {value : Text} (scalar : value.isScalar = true) :
    readScalar limits (stringLiteral value ++ rest) = .ok (.str value, rest) := by
  rw [stringLiteral_append, readScalar, readString_flatMap scalar]

/-- The text starts as a member of a container does, and does not close it. -/
def StartsMember (text : Text) : Prop :=
  ∃ first others, text = first :: others ∧ isSpace first = false ∧ first ≠ ']' ∧ first ≠ '\x7d'

theorem StartsMember.append (starts : StartsMember text) (rest : Text) :
    StartsMember (text ++ rest) := by
  obtain ⟨first, others, rfl, member⟩ := starts
  exact ⟨first, others ++ rest, rfl, member⟩

theorem StartsMember.skipSpace (starts : StartsMember text) : skipSpace text = text := by
  obtain ⟨first, others, rfl, noSpace, _⟩ := starts
  simp [Json.skipSpace, noSpace]

theorem startsMember_stringLiteral (value : Text) : StartsMember (stringLiteral value) :=
  ⟨'\x22', _, rfl, by decide⟩

theorem startsMember_intLiteral (value : Int) : StartsMember (intLiteral value) := by
  obtain ⟨first, digits, isLiteral, number⟩ := exists_cons_intLiteral value
  refine ⟨first, digits, isLiteral, ?_⟩
  rcases number with digit | rfl
  · have none : ∀ point ∈ (" \n\t\r]\x7d" : Text), point.isDigit = false := by decide
    have noMember : first ∉ (" \n\t\r]\x7d" : Text) := fun member => by
      rw [none first member] at digit
      cases digit
    refine ⟨decide_eq_false fun space => noMember ?_, ?_, ?_⟩
    · exact List.mem_append_left _ space
    · rintro rfl
      cases digit
    · rintro rfl
      cases digit
  · decide

theorem endsNumber_itemsLiteral (items : List Json) :
    EndsNumber (itemsLiteral items ++ CodePoint.char ']' :: rest) := by
  cases items with
  | nil =>
      rintro _ ⟨⟩
      decide
  | cons item items =>
      rintro _ ⟨⟩
      decide

theorem endsNumber_fieldsLiteral (fields : List (Text × Json)) :
    EndsNumber (fieldsLiteral fields ++ CodePoint.char '\x7d' :: rest) := by
  cases fields with
  | nil =>
      rintro _ ⟨⟩
      decide
  | cons field fields =>
      rintro _ ⟨⟩
      decide

theorem readValue_scalar {value : Json} {written : Text}
    (noContainer : ∃ first ∈ written.head?, first ≠ '[' ∧ first ≠ '\x7b')
    (room : written.length ≤ fuel) (skipped : skipSpace text = written ++ rest)
    (read : readScalar limits (written ++ rest) = .ok (value, rest)) :
    readValue limits fuel depth text = .ok (value, rest) := by
  obtain ⟨first, isHead, noArray, noObject⟩ := noContainer
  obtain ⟨others, rfl⟩ := List.head?_eq_some_iff.mp isHead
  cases fuel with
  | zero => cases room
  | succ fuel =>
      rw [readValue, skipped]
      split
      · next isArray =>
          cases isArray
          exact absurd rfl noArray
      · next isObject =>
          cases isObject
          exact absurd rfl noObject
      · exact read

theorem exceeds_depth (anyDepth : limits.depth = none) : exceeds depth limits.depth = false := by
  rw [anyDepth]
  rfl

theorem readEmpty_of_anyDepth (anyDepth : limits.depth = none) (value : Json) :
    readEmpty limits depth value rest = .ok (value, rest) := by
  rw [readEmpty, exceeds_depth anyDepth, Bool.and_false]
  rfl

theorem readValue_array {items : List Json} {members : Text} (anyDepth : limits.depth = none)
    (starts : StartsMember members) (skipped : skipSpace text = CodePoint.char '[' :: members)
    (read : readItems limits fuel (depth + 1) members = .ok (items, rest)) :
    readValue limits (fuel + 1) depth text = .ok (.arr items, rest) := by
  rw [readValue, skipped]
  simp only [starts.skipSpace]
  split
  · obtain ⟨_, _, same, _, noClose, _⟩ := starts
    cases same
    exact absurd rfl noClose
  · simp only [exceeds_depth anyDepth, read]
    rfl

theorem readValue_object {fields : List (Text × Json)} {members : Text} (anyDepth : limits.depth = none)
    (starts : StartsMember members) (skipped : skipSpace text = CodePoint.char '\x7b' :: members)
    (read : readFields limits fuel (depth + 1) members = .ok (fields, rest)) :
    readValue limits (fuel + 1) depth text = .ok (.obj fields, rest) := by
  rw [readValue, skipped]
  simp only [starts.skipSpace]
  split
  · obtain ⟨_, _, same, _, _, noClose⟩ := starts
    cases same
    exact absurd rfl noClose
  · simp only [exceeds_depth anyDepth, read]
    rfl

theorem itemsLiteral_cons (item : Json) (items : List Json) : itemsLiteral (item :: items) =
    CodePoint.char ',' :: CodePoint.char ' ' :: (item.literal ++ itemsLiteral items) :=
  rfl

theorem fieldsLiteral_cons (name : Text) (value : Json) (fields : List (Text × Json)) :
    fieldsLiteral ((name, value) :: fields) = CodePoint.char ',' :: CodePoint.char ' ' ::
      (stringLiteral name ++ CodePoint.char ':' :: CodePoint.char ' ' ::
        (value.literal ++ fieldsLiteral fields)) := by
  rw [fieldsLiteral]
  simp [ofString, ofChars]

theorem literal_arr (item : Json) (items : List Json) : literal (.arr (item :: items)) =
    CodePoint.char '[' :: (item.literal ++ (itemsLiteral items ++ [CodePoint.char ']'])) := by
  rw [literal]
  simp [ofString, ofChars]

theorem literal_obj (name : Text) (value : Json) (fields : List (Text × Json)) :
    literal (.obj ((name, value) :: fields)) = CodePoint.char '\x7b' ::
      (stringLiteral name ++ CodePoint.char ':' :: CodePoint.char ' ' ::
        (value.literal ++ (fieldsLiteral fields ++ [CodePoint.char '\x7d']))) := by
  rw [literal]
  simp [ofString, ofChars]

/-- The literal of the value is read as the value, whatever follows it but more of a number. -/
structure ReadsBack (limits : Limits) (value : Json) : Prop where
  starts : StartsMember value.literal
  read : ∀ {fuel depth text rest}, value.literal.length ≤ fuel → EndsNumber rest →
    skipSpace text = value.literal ++ rest → readValue limits fuel depth text = .ok (value, rest)

theorem ReadsBack.word {value : Json} (member : (value.literal, value) ∈ words) :
    ReadsBack limits value := by
  have letters : ∀ word ∈ words.map Prod.fst, ∃ first ∈ word.head?, (isSpace first = false ∧
      first ≠ ']' ∧ first ≠ '\x7d') ∧ first ≠ '[' ∧ first ≠ '\x7b' := by decide
  obtain ⟨first, isHead, noSpace, noContainer⟩ := letters _ (List.mem_map_of_mem member)
  obtain ⟨others, isWord⟩ := List.head?_eq_some_iff.mp isHead
  exact ⟨⟨first, others, isWord, noSpace⟩, fun room _ skipped =>
    readValue_scalar ⟨first, isHead, noContainer⟩ room skipped (readScalar_word member)⟩

theorem ReadsBack.int {value : Int} (admits : limits.Admits value) :
    ReadsBack limits (.int value) := by
  refine ⟨startsMember_intLiteral value, fun room ends skipped => ?_⟩
  obtain ⟨first, digits, isLiteral, number⟩ := exists_cons_intLiteral value
  refine readValue_scalar ⟨first, ?_, ?_⟩ room skipped (readScalar_intLiteral admits ends)
  · rw [literal, isLiteral]
    rfl
  · rcases number with digit | rfl
    · constructor <;> rintro rfl <;> cases digit
    · decide

theorem ReadsBack.str {value : Text} (scalar : value.isScalar = true) :
    ReadsBack limits (.str value) :=
  ⟨startsMember_stringLiteral value, fun room _ skipped =>
    readValue_scalar ⟨'\x22', rfl, by decide⟩ room skipped (readScalar_stringLiteral scalar)⟩

theorem readItems_next {item : Json} {items : List Json} {next : Text}
    (read : readValue limits fuel depth text = .ok (item, CodePoint.char ',' :: next))
    (others : readItems limits fuel depth next = .ok (items, rest)) :
    readItems limits (fuel + 1) depth text = .ok (item :: items, rest) := by
  have skipped : skipSpace (CodePoint.char ',' :: next) = CodePoint.char ',' :: next := rfl
  simp only [readItems, read, skipped, others]

/-- The items after the first one are read back, each behind a comma and a blank. -/
theorem readItems_itemsLiteral {items : List Json} (all : ∀ item ∈ items, ReadsBack limits item)
    {item : Json} (room : (itemsLiteral items).length ≤ fuel)
    (read : readValue limits fuel depth text =
      .ok (item, itemsLiteral items ++ CodePoint.char ']' :: rest)) :
    readItems limits (fuel + 1) depth text = .ok (item :: items, rest) := by
  induction items generalizing fuel text item with
  | nil =>
      rw [readItems, read]
      rfl
  | cons next items ih =>
      obtain ⟨first, others⟩ := List.forall_mem_cons.mp all
      rw [itemsLiteral_cons] at room read
      simp only [List.length_cons, List.length_append] at room
      simp only [List.cons_append, List.append_assoc] at read
      obtain ⟨fuel, rfl⟩ : ∃ lower, fuel = lower + 1 := ⟨fuel - 1, by omega⟩
      refine readItems_next read (ih others (by omega) ?_)
      exact first.read (by omega) (endsNumber_itemsLiteral items) (first.starts.append _).skipSpace

theorem readFields_next {name : Text} (scalar : name.isScalar = true) {value : Json}
    {fields : List (Text × Json)} {written next : Text}
    (start : skipSpace text = stringLiteral name ++ CodePoint.char ':' :: written)
    (read : readValue limits fuel depth written = .ok (value, CodePoint.char ',' :: next))
    (others : readFields limits fuel depth next = .ok (fields, rest)) :
    readFields limits (fuel + 1) depth text = .ok ((name, value) :: fields, rest) := by
  have colon : skipSpace (CodePoint.char ':' :: written) = CodePoint.char ':' :: written := rfl
  have comma : skipSpace (CodePoint.char ',' :: next) = CodePoint.char ',' :: next := rfl
  rw [stringLiteral_append] at start
  simp only [readFields, start, readString_flatMap scalar, colon, read, comma, others]

theorem readFields_last {name : Text} (scalar : name.isScalar = true) {value : Json}
    {written : Text}
    (start : skipSpace text = stringLiteral name ++ CodePoint.char ':' :: written)
    (read : readValue limits fuel depth written = .ok (value, CodePoint.char '\x7d' :: rest)) :
    readFields limits (fuel + 1) depth text = .ok ([(name, value)], rest) := by
  have colon : skipSpace (CodePoint.char ':' :: written) = CodePoint.char ':' :: written := rfl
  have brace : skipSpace (CodePoint.char '\x7d' :: rest) = CodePoint.char '\x7d' :: rest := rfl
  rw [stringLiteral_append] at start
  simp only [readFields, start, readString_flatMap scalar, colon, read, brace]

/-- The fields after the first one are read back in their order. -/
theorem readFields_fieldsLiteral {fields : List (Text × Json)}
    (all : ∀ field ∈ fields, Text.isScalar field.1 = true ∧ ReadsBack limits field.2)
    {name : Text} (scalar : name.isScalar = true) {value : Json} {written : Text}
    (room : (fieldsLiteral fields).length ≤ fuel)
    (start : skipSpace text = stringLiteral name ++ CodePoint.char ':' :: written)
    (read : readValue limits fuel depth written =
      .ok (value, fieldsLiteral fields ++ CodePoint.char '\x7d' :: rest)) :
    readFields limits (fuel + 1) depth text = .ok ((name, value) :: fields, rest) := by
  induction fields generalizing fuel text name value written with
  | nil => exact readFields_last scalar start read
  | cons field fields ih =>
      obtain ⟨nextName, next⟩ := field
      obtain ⟨⟨nextScalar, first⟩, others⟩ := List.forall_mem_cons.mp all
      replace first : ReadsBack limits next := first
      rw [fieldsLiteral_cons] at room read
      simp only [List.length_cons, List.length_append] at room
      simp only [List.cons_append, List.append_assoc] at read
      obtain ⟨fuel, rfl⟩ : ∃ lower, fuel = lower + 1 := ⟨fuel - 1, by omega⟩
      refine readFields_next scalar start read (ih others nextScalar (by omega)
        ((startsMember_stringLiteral nextName).append _).skipSpace ?_)
      exact first.read (by omega) (endsNumber_fieldsLiteral fields)
        (first.starts.append _).skipSpace

theorem ReadsBack.arr (anyDepth : limits.depth = none) {items : List Json}
    (all : ∀ item ∈ items, ReadsBack limits item) : ReadsBack limits (.arr items) := by
  refine ⟨?_, fun {fuel depth text rest} room _ skipped => ?_⟩
  · cases items <;> exact ⟨'[', _, rfl, by decide⟩
  cases items with
  | nil =>
      obtain ⟨fuel, rfl⟩ : ∃ lower, fuel = lower + 1 := ⟨fuel - 1, by
        have : 2 ≤ fuel := room
        omega⟩
      rw [readValue, skipped]
      exact readEmpty_of_anyDepth anyDepth _
  | cons item items =>
      obtain ⟨first, others⟩ := List.forall_mem_cons.mp all
      rw [literal_arr] at room skipped
      simp only [List.length_cons, List.length_append] at room
      simp only [List.cons_append, List.append_assoc] at skipped
      obtain ⟨fuel, rfl⟩ : ∃ lower, fuel = lower + 2 := ⟨fuel - 2, by omega⟩
      refine readValue_array anyDepth (first.starts.append _) skipped
        (readItems_itemsLiteral others (by omega) ?_)
      exact first.read (by omega) (endsNumber_itemsLiteral items) (first.starts.append _).skipSpace

theorem ReadsBack.obj (anyDepth : limits.depth = none) {fields : List (Text × Json)}
    (all : ∀ field ∈ fields, Text.isScalar field.1 = true ∧ ReadsBack limits field.2) :
    ReadsBack limits (.obj fields) := by
  refine ⟨?_, fun {fuel depth text rest} room _ skipped => ?_⟩
  · cases fields <;> exact ⟨'\x7b', _, rfl, by decide⟩
  cases fields with
  | nil =>
      obtain ⟨fuel, rfl⟩ : ∃ lower, fuel = lower + 1 := ⟨fuel - 1, by
        have : 2 ≤ fuel := room
        omega⟩
      rw [readValue, skipped]
      exact readEmpty_of_anyDepth anyDepth _
  | cons field fields =>
      obtain ⟨name, value⟩ := field
      obtain ⟨⟨scalar, first⟩, others⟩ := List.forall_mem_cons.mp all
      replace first : ReadsBack limits value := first
      rw [literal_obj] at room skipped
      simp only [List.length_cons, List.length_append] at room
      simp only [List.cons_append, List.append_assoc] at skipped
      obtain ⟨fuel, rfl⟩ : ∃ lower, fuel = lower + 2 := ⟨fuel - 2, by omega⟩
      have starts := startsMember_stringLiteral name
      refine readValue_object anyDepth (starts.append _) skipped
        (readFields_fieldsLiteral others scalar (by omega) (starts.append _).skipSpace ?_)
      exact first.read (by omega) (endsNumber_fieldsLiteral fields)
        (first.starts.append _).skipSpace

mutual

theorem readsBack_of_isExact (anyDepth : limits.depth = none) : ∀ {value : Json},
    value.isExact = true → (∀ number ∈ value.integers, limits.Admits number) →
    ReadsBack limits value
  | .null, _, _ => .word (by simp [words, literal])
  | .bool true, _, _ => .word (by simp [words, literal])
  | .bool false, _, _ => .word (by simp [words, literal])
  | .int _, _, admits => .int (admits _ (List.mem_singleton_self _))
  | .str _, scalar, _ => .str scalar
  | .arr _, isExact, admits => .arr anyDepth (readsBack_items anyDepth isExact admits)
  | .obj _, isExact, admits =>
      .obj anyDepth (readsBack_fields anyDepth (Bool.and_eq_true_iff.mp isExact).2 admits)

theorem readsBack_items (anyDepth : limits.depth = none) : ∀ {items : List Json},
    itemsAreExact items = true → (∀ number ∈ itemsIntegers items, limits.Admits number) →
    ∀ item ∈ items, ReadsBack limits item
  | [], _, _ => by simp
  | _ :: _, isExact, admits =>
      have both := Bool.and_eq_true_iff.mp isExact
      have parts := List.forall_mem_append.mp admits
      List.forall_mem_cons.mpr
        ⟨readsBack_of_isExact anyDepth both.1 parts.1, readsBack_items anyDepth both.2 parts.2⟩

theorem readsBack_fields (anyDepth : limits.depth = none) : ∀ {fields : List (Text × Json)},
    fieldsAreExact fields = true → (∀ number ∈ fieldsIntegers fields, limits.Admits number) →
    ∀ field ∈ fields, Text.isScalar field.1 = true ∧ ReadsBack limits field.2
  | [], _, _ => by simp
  | (_, _) :: _, isExact, admits =>
      have both := Bool.and_eq_true_iff.mp isExact
      have first := Bool.and_eq_true_iff.mp both.1
      have parts := List.forall_mem_append.mp admits
      List.forall_mem_cons.mpr
        ⟨⟨first.1, readsBack_of_isExact anyDepth first.2 parts.1⟩,
          readsBack_fields anyDepth both.2 parts.2⟩

end

/-- Objects that repeat no name lose nothing when repetitions are dropped. -/
theorem upsertAll_of_nodup {kept fields : List (Text × Json)}
    (distinct : ((kept ++ fields).map Prod.fst).Nodup) :
    upsertAll kept fields = kept ++ fields := by
  induction fields generalizing kept with
  | nil => exact (List.append_nil kept).symm
  | cons field fields ih =>
      have absent : field.1 ∉ kept.map Prod.fst := by
        rw [List.map_append, List.map_cons] at distinct
        intro member
        exact (List.nodup_append.mp distinct).2.2 _ member _ List.mem_cons_self rfl
      have step : upsertAll kept (field :: fields) =
          upsertAll (upsert field.1 field.2 kept) fields := rfl
      rw [step, upsert_of_not_mem _ absent, ih (by simpa using distinct)]
      simp

mutual

theorem distinct_of_isExact : ∀ {value : Json}, value.isExact = true → value.distinct = value
  | .null, _ => rfl
  | .bool _, _ => rfl
  | .int _, _ => rfl
  | .str _, _ => rfl
  | .arr items, isExact => by rw [distinct, distinctItems_of_isExact isExact]
  | .obj fields, isExact => by
      have both := Bool.and_eq_true_iff.mp isExact
      rw [distinct, distinctFields_of_isExact both.2, upsertAll_of_nodup (by simpa using both.1)]
      rfl

theorem distinctItems_of_isExact : ∀ {items : List Json}, itemsAreExact items = true →
    distinctItems items = items
  | [], _ => rfl
  | _ :: _, isExact => by
      have both := Bool.and_eq_true_iff.mp isExact
      rw [distinctItems, distinct_of_isExact both.1, distinctItems_of_isExact both.2]

theorem distinctFields_of_isExact : ∀ {fields : List (Text × Json)}, fieldsAreExact fields = true →
    distinctFields fields = fields
  | [], _ => rfl
  | (_, _) :: _, isExact => by
      have both := Bool.and_eq_true_iff.mp isExact
      have first := Bool.and_eq_true_iff.mp both.1
      rw [distinctFields, distinct_of_isExact first.2, distinctFields_of_isExact both.2]

end

theorem read_of_readsBack {value : Json} (readsBack : ReadsBack limits value) :
    read limits value.literal = .ok value := by
  obtain ⟨first, others, isLiteral, noSpace, _⟩ := readsBack.starts
  have printable := printable_literal value first (isLiteral ▸ List.mem_cons_self)
  have noMark : ¬ value.literal.head? = some (CodePoint.char '\ufeff') := by
    rw [isLiteral]
    rintro ⟨⟩
    exact absurd printable (by decide)
  have start : skipSpace value.literal = value.literal ++ [] := by
    rw [readsBack.starts.skipSpace, List.append_nil]
  have ends : EndsNumber [] := by rintro _ ⟨⟩
  rw [read]
  refine (if_neg noMark).trans ?_
  rw [readsBack.read (by omega) ends start]
  rfl

/-- The literal of a constant is read as the constant, the names of objects in their order. -/
theorem read_literal {value : Json} (isExact : value.isExact = true) (anyDepth : limits.depth = none)
    (admits : ∀ number ∈ value.integers, limits.Admits number) :
    read limits value.literal = .ok value :=
  read_of_readsBack (readsBack_of_isExact anyDepth isExact admits)

/-- Without bounds the literal of every constant is read. -/
theorem ofText?_literal {value : Json} (isExact : value.isExact = true) :
    ofText? value.literal = some value := by
  have admits : ∀ number ∈ value.integers, Limits.Admits {} number := fun _ _ => rfl
  rw [ofText?, read_literal isExact rfl admits]
  exact congrArg some (distinct_of_isExact isExact)

end PageCompiler.Json
