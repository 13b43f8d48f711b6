/-
  Cutting a text into pieces undoes joining pieces that hold no mark.
-/
import PageCompiler.Compilation.Collection
import PageCompiler.Text.Split

namespace PageCompiler

namespace Text

variable {α : Type} {isMark : α → Bool} {items piece rest : List α} {item mark : α}

/-- A piece between marks holds no mark. -/
theorem isMark_eq_false_of_mem_splitWhere (member : piece ∈ splitWhere isMark items)
    (inside : item ∈ piece) : isMark item = false := by
  induction items generalizing piece with
  | nil =>
      rw [splitWhere, List.mem_singleton] at member
      subst member
      cases inside
  | cons first rest ih =>
      rw [splitWhere] at member
      split at member
      · rcases List.mem_cons.mp member with rfl | later
        · cases inside
        · exact ih later inside
      · next plain =>
          cases pieces : splitWhere isMark rest with
          | nil => exact absurd pieces (splitWhere_ne_nil isMark rest)
          | cons front others =>
              rw [pieces, consToFirst] at member
              rcases List.mem_cons.mp member with rfl | later
              · rcases List.mem_cons.mp inside with rfl | below
                · simpa using plain
                · exact ih (pieces ▸ List.mem_cons_self) below
              · exact ih (pieces ▸ List.mem_cons_of_mem _ later) inside

theorem splitWhere_of_plain (plain : ∀ item ∈ items, isMark item = false) :
    splitWhere isMark items = [items] := by
  induction items with
  | nil => rfl
  | cons item rest ih =>
      obtain ⟨first, later⟩ := List.forall_mem_cons.mp plain
      rw [splitWhere, ih later, first]
      rfl

theorem splitWhere_append_mark (plain : ∀ item ∈ piece, isMark item = false)
    (marked : isMark mark = true) :
    splitWhere isMark (piece ++ mark :: rest) = piece :: splitWhere isMark rest := by
  induction piece with
  | nil => simp [splitWhere, marked]
  | cons item piece ih =>
      obtain ⟨first, later⟩ := List.forall_mem_cons.mp plain
      rw [List.cons_append, splitWhere, ih later, first]
      rfl

theorem segments_append_dot {piece rest : Text} (plain : CodePoint.char '.' ∉ piece) :
    segments (piece ++ CodePoint.char '.' :: rest) = piece :: segments rest := by
  refine splitWhere_append_mark ?_ (by simp)
  intro item inside
  have differs : item ≠ CodePoint.char '.' := ne_of_mem_of_not_mem inside plain
  simpa using differs

theorem segments_of_plain {text : Text} (plain : CodePoint.char '.' ∉ text) :
    segments text = [text] := by
  refine splitWhere_of_plain ?_
  intro item inside
  have differs : item ≠ CodePoint.char '.' := ne_of_mem_of_not_mem inside plain
  simpa using differs

theorem segments_intercalate {first : Text} {rest : List Text}
    (plain : CodePoint.char '.' ∉ first) (restPlain : ∀ piece ∈ rest, CodePoint.char '.' ∉ piece) :
    segments (List.intercalate "." (first :: rest)) = first :: rest := by
  induction rest generalizing first with
  | nil =>
      rw [List.intercalate_singleton]
      exact segments_of_plain plain
  | cons second rest ih =>
      obtain ⟨secondPlain, laterPlain⟩ := List.forall_mem_cons.mp restPlain
      rw [List.intercalate_cons_cons, List.append_assoc]
      have dot : Text.ofString "." = [CodePoint.char '.'] := by decide
      rw [dot, List.singleton_append, segments_append_dot plain, ← dot, ih secondPlain laterPlain]

end Text

theorem Identifier.IsValid.isPart_of_mem {name : Text} (valid : Identifier.IsValid name)
    {point : CodePoint} (member : point ∈ name) : Identifier.isPart point = true := by
  obtain ⟨first, rest, rfl, start, parts⟩ := valid
  rcases List.mem_cons.mp member with rfl | later
  · cases point with
    | surrogate _ => simp [isStart, CodePoint.holds] at start
    | char c =>
        simp only [isStart, isPart, CodePoint.holds, Char.isAlphanum, Bool.or_eq_true] at start ⊢
        rcases start with (alpha | low) | dollar
        · exact .inl (.inl (.inl alpha))
        · exact .inl (.inr low)
        · exact .inr dollar
  · exact parts point later

theorem Identifier.IsValid.dot_not_mem {name : Text} (valid : Identifier.IsValid name) :
    CodePoint.char '.' ∉ name :=
  fun member => absurd (valid.isPart_of_mem member) (by decide)

/-- The code that follows a path starts with the identifier and goes on with the path. -/
theorem Collection.segments_accessor {identifier : Text} {path : List Text}
    (valid : Identifier.IsValid identifier)
    (plain : ∀ piece ∈ path, CodePoint.char '.' ∉ piece) :
    Text.segments (accessor identifier path) = identifier :: path :=
  Text.segments_intercalate valid.dot_not_mem plain

end PageCompiler
