/-
  Attributes with a quoted value, as they are written and as they are read.

  A value is written as a string literal, with escapes. An attribute is read by another rule: the value
  is all that stands before the next quotation mark, a backslash is a character like any other, and
  character references stand for the characters that they name. So an attribute gives back the value
  that it was written for if and only if the value needs no escape and holds no reference
  (`Attribute.givesBack_iff`).

  Which names characters have is not settled here: a table of names is a parameter throughout.
-/
import Mathlib.Data.List.Infix
import Mathlib.Data.List.TakeWhile
import Mathlib.Tactic.SplitIfs
import PageCompiler.Json.StringLiteral

namespace PageCompiler.Attribute

/-- A string literal as the value of an attribute. -/
def written (name value : Text) : Text := name ++ "=" ++ Json.stringLiteral value

/-! ## Reading -/

/-- The letters, digits and number signs that a reference is made of. -/
def isReferencePoint (point : CodePoint) : Bool := point.holds Char.isAlphanum || point = '#'

/-- The number that is written by the digits. -/
def number? (base : Nat) (digits : Text) : Option Nat :=
  if digits.isEmpty then none
  else digits.foldlM (fun number digit => (Text.hexValue? digit).bind fun value =>
    if value < base then some (number * base + value) else none) 0

/-- The character with the number or the name. -/
def referent? (names : Text → Option CodePoint) : Text → Option CodePoint
  | '#' :: 'x' :: digits => (number? 16 digits).bind CodePoint.ofCode?
  | '#' :: digits => (number? 10 digits).bind CodePoint.ofCode?
  | name => names name

/-- The character whose reference a text starts with, and the text after the reference. -/
def reference? (names : Text → Option CodePoint) : Text → Option (CodePoint × Text)
  | [] => none
  | point :: rest =>
      let after := rest.dropWhile isReferencePoint
      if point = '&' ∧ after.head? = some (CodePoint.char ';') then
        (referent? names (rest.takeWhile isReferencePoint)).map (·, after.tail)
      else none

variable {names : Text → Option CodePoint} {point : CodePoint}
  {name value text front rest after : Text}

theorem length_reference? (found : reference? names text = some (point, after)) :
    after.length + 2 ≤ text.length := by
  cases text with
  | nil => cases found
  | cons first rest =>
      rw [reference?] at found
      split at found
      · next starts =>
          obtain ⟨_, _, same⟩ := Option.map_eq_some_iff.mp found
          cases same
          have shorter := (List.dropWhile_suffix isReferencePoint (l := rest)).length_le
          obtain ⟨left, cut⟩ := List.head?_eq_some_iff.mp starts.2
          rw [cut] at shorter ⊢
          simpa using shorter
      · cases found

/-- The text with characters in place of their references. What only looks like a reference stays. -/
def decode (names : Text → Option CodePoint) : Text → Text
  | [] => []
  | point :: rest =>
      match _found : reference? names (point :: rest) with
      | some (character, after) => character :: decode names after
      | none => point :: decode names rest
termination_by text => text.length
decreasing_by
  · have shorter := length_reference? ‹_›
    omega
  · exact Nat.lt_succ_self _

/-- The name and the value of an attribute, if the text is one attribute with a quoted value and
    nothing else. -/
def read (names : Text → Option CodePoint) (text : Text) : Option (Text × Text) :=
  match text.dropWhile (· ≠ CodePoint.char '=') with
  | '=' :: '\x22' :: quoted =>
      if quoted.dropWhile (· ≠ CodePoint.char '\x22') = [CodePoint.char '\x22'] then
        some (text.takeWhile (· ≠ CodePoint.char '='),
          decode names (quoted.takeWhile (· ≠ CodePoint.char '\x22')))
      else none
  | _ => none

/-- The code point needs no escape in a literal. -/
def IsPlain (point : CodePoint) : Prop :=
  (0x20 ≤ point.code ∧ point.code ≤ 0x7e) ∧ point ≠ '\x22' ∧ point ≠ '\\'

instance : DecidablePred IsPlain := fun _ => inferInstanceAs (Decidable (_ ∧ _ ∧ _))

/-- The value needs no escapes, and no reference starts in it. -/
structure Verbatim (names : Text → Option CodePoint) (value : Text) : Prop where
  plain : ∀ point ∈ value, IsPlain point
  noReference : ∀ rest, rest <:+ value → reference? names rest = none

/-! ## Texts without references -/

theorem decode_of_some (found : reference? names text = some (point, after)) :
    decode names text = point :: decode names after := by
  cases text with
  | nil => cases found
  | cons first rest =>
      rw [decode]
      split
      · next found' =>
          cases found.symm.trans found'
          rfl
      · next absent =>
          rw [found] at absent
          cases absent

theorem decode_of_none (absent : reference? names (point :: rest) = none) :
    decode names (point :: rest) = point :: decode names rest := by
  rw [decode]
  split
  · next found =>
      rw [absent] at found
      cases found
  · rfl

theorem length_decode_le (names : Text → Option CodePoint) (text : Text) :
    (decode names text).length ≤ text.length := by
  fun_induction decode names text with
  | case1 => exact Nat.le_refl 0
  | case2 first rest character after found ih =>
      have shorter := length_reference? found
      simp only [List.length_cons] at shorter ⊢
      omega
  | case3 first rest absent ih =>
      simp only [List.length_cons]
      omega

/-- A text is left as it is if no reference starts in it. -/
theorem decode_eq_self_iff :
    decode names text = text ↔ ∀ rest, rest <:+ text → reference? names rest = none := by
  induction text with
  | nil =>
      constructor
      · intro _ rest suffix
        rw [List.suffix_nil.mp suffix]
        rfl
      · intro _
        rw [decode]
  | cons first text ih =>
      constructor
      · intro same rest suffix
        cases found : reference? names (first :: text) with
        | some result =>
            obtain ⟨character, after⟩ := result
            -- A reference is longer than its character, and nothing grows after it.
            have shorter := length_reference? found
            have below := length_decode_le names after
            rw [decode_of_some found] at same
            have lengths := congrArg List.length same
            simp only [List.length_cons] at shorter lengths
            omega
        | none =>
            rw [decode_of_none found] at same
            rcases List.suffix_cons_iff.mp suffix with rfl | suffix
            · exact found
            · exact ih.mp (List.cons.inj same).2 rest suffix
      · intro none
        rw [decode_of_none (none _ List.suffix_rfl),
          ih.mpr fun rest suffix => none rest (suffix.trans (List.suffix_cons _ _))]

/-! ## Backslashes -/

/-- A stretch ends at a mark of another kind at the latest. -/
theorem stretch_append {α : Type} (kind : α → Bool) {mark : α} (stops : kind mark = false)
    (items rest : List α) :
    (items ++ mark :: rest).takeWhile kind = items.takeWhile kind ∧
      (items ++ mark :: rest).dropWhile kind = items.dropWhile kind ++ mark :: rest := by
  induction items with
  | nil => simp [stops]
  | cons item items ih =>
      rw [List.cons_append, List.takeWhile_cons, List.dropWhile_cons, List.takeWhile_cons,
        List.dropWhile_cons, ih.1, ih.2]
      split <;> exact ⟨rfl, rfl⟩

/-- A backslash is in no reference. -/
theorem reference?_backslash (names : Text → Option CodePoint) (front rest : Text) :
    reference? names (front ++ CodePoint.char '\\' :: rest) =
      (reference? names front).map
        fun found => (found.1, found.2 ++ CodePoint.char '\\' :: rest) := by
  have backslash : isReferencePoint (CodePoint.char '\\') = false := by decide
  cases front with
  | nil => simp [reference?]
  | cons first front =>
      obtain ⟨taken, dropped⟩ := stretch_append isReferencePoint backslash front rest
      rw [List.cons_append, reference?, reference?, taken, dropped]
      cases front.dropWhile isReferencePoint with
      | nil => simp
      | cons last after =>
          by_cases starts : first = CodePoint.char '&' ∧ last = CodePoint.char ';'
          · obtain ⟨rfl, rfl⟩ := starts
            cases referent? names (front.takeWhile isReferencePoint) <;> rfl
          · rw [if_neg fun head => starts ⟨head.1, Option.some.inj head.2⟩,
              if_neg fun head => starts ⟨head.1, Option.some.inj head.2⟩]
            rfl

theorem decode_cons_backslash (names : Text → Option CodePoint) (rest : Text) :
    decode names (CodePoint.char '\\' :: rest) = CodePoint.char '\\' :: decode names rest :=
  decode_of_none rfl

/-- No reference goes over a backslash. -/
theorem decode_backslash (names : Text → Option CodePoint) (front rest : Text) :
    decode names (front ++ CodePoint.char '\\' :: rest) =
      decode names front ++ CodePoint.char '\\' :: decode names rest := by
  fun_induction decode names front with
  | case1 => exact decode_cons_backslash names rest
  | case2 first front character after found ih =>
      have longer := reference?_backslash names (first :: front) rest
      rw [found, Option.map_some] at longer
      rw [decode_of_some longer, ih]
      rfl
  | case3 first front absent ih =>
      have longer := reference?_backslash names (first :: front) rest
      rw [absent, Option.map_none] at longer
      rw [List.cons_append] at longer ⊢
      rw [decode_of_none longer, ih]
      rfl

/-- The text of a literal without its quotation marks. -/
def body (value : Text) : Text := value.flatMap Json.escapePoint

theorem body_cons (point : CodePoint) (rest : Text) :
    body (point :: rest) = Json.escapePoint point ++ body rest :=
  List.flatMap_cons

theorem escapePoint_of_plain (plain : IsPlain point) : Json.escapePoint point = [point] := by
  obtain ⟨printable, noQuote, noEscape⟩ := plain
  have visible : ∀ control ∈ ("\n\r\t\x08\x0c" : Text), point ≠ control := by
    rintro control member rfl
    exact absurd printable ((by decide : ∀ control ∈ ("\n\r\t\x08\x0c" : Text),
      ¬ (0x20 ≤ control.code ∧ control.code ≤ 0x7e)) point member)
  unfold Json.escapePoint
  rw [if_neg noQuote, if_neg noEscape, if_neg (visible '\n' (by decide)),
    if_neg (visible '\r' (by decide)), if_neg (visible '\t' (by decide)),
    if_neg (visible '\x08' (by decide)), if_neg (visible '\x0c' (by decide)), if_pos printable]

theorem escapePoint_of_not_plain (special : ¬ IsPlain point) :
    ∃ rest, Json.escapePoint point = CodePoint.char '\\' :: rest := by
  unfold Json.escapePoint
  split_ifs with quote escape _ _ _ _ _ printable
  · exact ⟨_, rfl⟩
  · exact ⟨_, rfl⟩
  · exact ⟨_, rfl⟩
  · exact ⟨_, rfl⟩
  · exact ⟨_, rfl⟩
  · exact ⟨_, rfl⟩
  · exact ⟨_, rfl⟩
  · exact absurd ⟨printable, quote, escape⟩ special
  · exact ⟨_, rfl⟩
  · exact ⟨_, rfl⟩

/-- Backslashes are never used up: each one that is read comes from a value with fewer. -/
theorem replicate_append_decode_ne (names : Text → Option CodePoint) (value : Text) (count : Nat) :
    List.replicate (count + 1) (CodePoint.char '\\') ++ decode names (body value) ≠ value := by
  induction value generalizing count with
  | nil => exact List.cons_ne_nil _ _
  | cons point value ih =>
      intro same
      obtain ⟨rfl, same⟩ := List.cons.inj same
      have twice : body (CodePoint.char '\\' :: value) =
        CodePoint.char '\\' :: CodePoint.char '\\' :: body value := rfl
      rw [twice, decode_cons_backslash, decode_cons_backslash] at same
      refine ih (count + 1) ?_
      rw [List.replicate_add count 2, List.append_assoc]
      exact same

theorem body_of_plain (plain : ∀ point ∈ value, IsPlain point) : body value = value := by
  induction value with
  | nil => rfl
  | cons point value ih =>
      obtain ⟨first, others⟩ := List.forall_mem_cons.mp plain
      rw [body_cons, escapePoint_of_plain first, ih others]
      rfl

/-- A body that is read as the value has no escapes, whatever plain text precedes it. -/
theorem plain_of_decode_body (plain : ∀ other ∈ front, IsPlain other)
    (same : decode names (front ++ body value) = front ++ value) :
    ∀ point ∈ value, IsPlain point := by
  induction value generalizing front with
  | nil => exact fun _ member => nomatch member
  | cons point value ih =>
      by_cases isPlain : IsPlain point
      · have longer : ∀ other ∈ front ++ [point], IsPlain other :=
          List.forall_mem_append.mpr ⟨plain, List.forall_mem_singleton.mpr isPlain⟩
        rw [body_cons, escapePoint_of_plain isPlain] at same
        exact List.forall_mem_cons.mpr ⟨isPlain, ih longer (by simpa using same)⟩
      · exfalso
        obtain ⟨tail, escaped⟩ := escapePoint_of_not_plain isPlain
        rw [body_cons, escaped, List.cons_append, decode_backslash] at same
        -- The text in front of the backslash has become no longer, so it ends no later than `front`.
        have isPrefix : decode names front <+: front :=
          List.prefix_of_prefix_length_le ⟨_, same⟩ (List.prefix_append _ _) (length_decode_le _ _)
        obtain ⟨middle, isFront⟩ := isPrefix
        have cut : front ++ point :: value = decode names front ++ (middle ++ point :: value) := by
          rw [← List.append_assoc, isFront]
        replace same := List.append_cancel_left (same.trans cut)
        cases middle with
        | nil =>
            obtain ⟨rfl, isValue⟩ := List.cons.inj same
            have isTail : tail = [CodePoint.char '\\'] := (List.cons.inj escaped).2.symm
            rw [isTail, List.singleton_append, decode_cons_backslash] at isValue
            exact replicate_append_decode_ne names value 0 isValue
        | cons first middle =>
            obtain ⟨rfl, _⟩ := List.cons.inj same
            have inFront : CodePoint.char '\\' ∈ front := by
              rw [← isFront]
              simp
            exact (plain _ inFront).2.2 rfl

/-- The body of a literal is read as the value if and only if it has no escapes and no references. -/
theorem decode_body_iff : decode names (body value) = value ↔ Verbatim names value := by
  constructor
  · intro same
    have plain : ∀ point ∈ value, IsPlain point :=
      plain_of_decode_body (List.forall_mem_nil _) same
    rw [body_of_plain plain] at same
    exact ⟨plain, decode_eq_self_iff.mp same⟩
  · rintro ⟨plain, noReference⟩
    rw [body_of_plain plain]
    exact decode_eq_self_iff.mpr noReference

theorem Verbatim.noQuote (verbatim : Verbatim names value) : CodePoint.char '\x22' ∉ value :=
  fun member => (verbatim.plain _ member).2.1 rfl

/-- References start with an ampersand, so a plain value without one is verbatim whatever names there
    are. -/
theorem Verbatim.of_plain (plain : ∀ point ∈ value, IsPlain point)
    (noAmpersand : CodePoint.char '&' ∉ value) : Verbatim names value := by
  refine ⟨plain, fun rest suffix => ?_⟩
  cases rest with
  | nil => rfl
  | cons point rest =>
      refine if_neg fun starts => noAmpersand ?_
      rw [← starts.1]
      exact suffix.subset List.mem_cons_self

/-! ## Reading what is written -/

theorem written_eq (name value : Text) :
    written name value = name ++ CodePoint.char '=' :: CodePoint.char '\x22' ::
      (body value ++ [CodePoint.char '\x22']) := by
  simp [written, Json.stringLiteral, body, Text.ofString, Text.ofChars]

/-- What stands before the first mark, and the rest. -/
theorem stretch_before {mark : CodePoint} (absent : mark ∉ text) (rest : Text) :
    (text ++ mark :: rest).takeWhile (· ≠ mark) = text ∧
      (text ++ mark :: rest).dropWhile (· ≠ mark) = mark :: rest := by
  have stops : decide (mark ≠ mark) = false := decide_eq_false fun differs => differs rfl
  have all : ∀ point ∈ text, decide (point ≠ mark) = true :=
    fun point member => decide_eq_true fun same => absent (same ▸ member)
  obtain ⟨taken, dropped⟩ := stretch_append (fun point => decide (point ≠ mark)) stops text rest
  rw [taken, dropped, List.takeWhile_eq_self_iff.mpr all, List.dropWhile_eq_nil_iff.mpr all]
  exact ⟨rfl, rfl⟩

/-- What is written for the value is one whole attribute, and the value is what it is read as. -/
def GivesBack (names : Text → Option CodePoint) (name value : Text) : Prop :=
  read names (written name value) = some (name, value)

/-- An attribute gives back the value that it was written for if and only if the value needs no escapes
    and no reference starts in it. -/
theorem givesBack_iff (noEquals : CodePoint.char '=' ∉ name) :
    GivesBack names name value ↔ Verbatim names value := by
  obtain ⟨taken, dropped⟩ := stretch_before noEquals
    (CodePoint.char '\x22' :: (body value ++ [CodePoint.char '\x22']))
  rw [GivesBack, read, written_eq, taken, dropped]
  show (if (body value ++ [CodePoint.char '\x22']).dropWhile (· ≠ CodePoint.char '\x22') =
      [CodePoint.char '\x22'] then some (name, decode names _) else none) = _ ↔ _
  constructor
  · intro isRead
    split at isRead
    · next ended =>
        -- Only the last quotation mark is left, so all of the body was taken.
        have parts := List.takeWhile_append_dropWhile (p := (· ≠ CodePoint.char '\x22'))
          (l := body value ++ [CodePoint.char '\x22'])
        rw [ended] at parts
        rw [List.append_cancel_right parts] at isRead
        exact decode_body_iff.mp (Prod.mk.inj (Option.some.inj isRead)).2
    · cases isRead
  · intro verbatim
    obtain ⟨quoted, left⟩ := stretch_before verbatim.noQuote []
    rw [body_of_plain verbatim.plain, quoted, left, if_pos rfl,
      decode_eq_self_iff.mpr verbatim.noReference]

end PageCompiler.Attribute
