/-
  The names that a line of a module's body declares, read off its text.

  A declaration is `const`, a name or a bracketed pair of names, and an equals sign. Whatever follows
  that sign, the names are the words in front of it.
-/
import PageCompiler.Compilation.Declarations
import PageCompiler.Proofs.Segments

namespace PageCompiler

/-- The words of a text: its longest pieces that look like parts of identifiers. -/
def words (text : Text) : List Text :=
  (Text.splitWhere (fun point => !Identifier.isPart point) text).filter (· ≠ [])

/-- What stands between `const` and the first equals sign of a line. -/
def declaredPart (line : Text) : Text :=
  (line.drop (Text.ofString "const ").length).takeWhile (· ≠ CodePoint.char '=')

/-- The names that a line declares. -/
def declaredNames (line : Text) : List Text := words (declaredPart line)

variable {name rest : Text}

theorem words_mark {mark : CodePoint} (isMark : Identifier.isPart mark = false) :
    words (mark :: rest) = words rest := by
  simp [words, Text.splitWhere, isMark]

theorem words_name_mark {mark : CodePoint} (valid : Identifier.IsValid name)
    (isMark : Identifier.isPart mark = false) : words (name ++ mark :: rest) = name :: words rest := by
  have filled : name ≠ [] := by
    obtain ⟨first, rest, rfl, _⟩ := valid
    simp
  have plain : ∀ point ∈ name, (!Identifier.isPart point) = false := by
    intro point member
    rw [valid.isPart_of_mem member]
    rfl
  rw [words, Text.splitWhere_append_mark plain (by rw [isMark]; rfl),
    List.filter_cons_of_pos (by simpa using filled)]
  rfl

theorem declaredPart_eq {front : Text} (plain : CodePoint.char '=' ∉ front) :
    declaredPart ("const " ++ front ++ CodePoint.char '=' :: rest) = front := by
  rw [declaredPart, List.append_assoc, List.drop_left, List.takeWhile_append_of_pos]
  · simp
  · intro point member
    simpa using ne_of_mem_of_not_mem member plain

theorem Identifier.IsValid.equals_not_mem (valid : Identifier.IsValid name) :
    CodePoint.char '=' ∉ name :=
  fun member => absurd (valid.isPart_of_mem member) (by decide)

theorem declaredNames_single (valid : Identifier.IsValid name) (rest : Text) :
    declaredNames ("const " ++ name ++ " = " ++ rest) = [name] := by
  have shape : Text.ofString "const " ++ name ++ Text.ofString " = " ++ rest =
      Text.ofString "const " ++ (name ++ [CodePoint.char ' ']) ++
        CodePoint.char '=' :: CodePoint.char ' ' :: rest := by
    simp [Text.ofString, Text.ofChars]
  have plain : CodePoint.char '=' ∉ name ++ [CodePoint.char ' '] := by
    simp [valid.equals_not_mem]
  rw [declaredNames, shape, declaredPart_eq plain, words_name_mark valid (by decide)]
  rfl

theorem declaredNames_pair {first second : Text} (valid : Identifier.IsValid first)
    (valid' : Identifier.IsValid second) (rest : Text) :
    declaredNames ("const [" ++ first ++ ", " ++ second ++ "] = " ++ rest) = [first, second] := by
  let front : Text := CodePoint.char '[' :: (first ++ CodePoint.char ',' :: CodePoint.char ' ' ::
    (second ++ [CodePoint.char ']', CodePoint.char ' ']))
  have shape : Text.ofString "const [" ++ first ++ Text.ofString ", " ++ second ++
      Text.ofString "] = " ++ rest =
        Text.ofString "const " ++ front ++ CodePoint.char '=' :: CodePoint.char ' ' :: rest := by
    simp [front, Text.ofString, Text.ofChars]
  have plain : CodePoint.char '=' ∉ front := by
    simp [front, valid.equals_not_mem, valid'.equals_not_mem]
  rw [declaredNames, shape, declaredPart_eq plain, words_mark (by decide),
    words_name_mark valid (by decide), words_mark (by decide), words_name_mark valid' (by decide)]
  rfl

/-- If the lines declare no name twice, each declared name is declared by one line. -/
theorem countP_declaredNames {lines : List Text} (distinct : (lines.flatMap declaredNames).Nodup)
    (member : name ∈ lines.flatMap declaredNames) :
    lines.countP (fun line => name ∈ declaredNames line) = 1 := by
  induction lines with
  | nil => cases member
  | cons line lines ih =>
      rw [List.flatMap_cons] at distinct member
      obtain ⟨_, distinctLater, apart⟩ := List.nodup_append.mp distinct
      rcases List.mem_append.mp member with here | later
      · have absent : lines.countP (fun line => name ∈ declaredNames line) = 0 := by
          rw [List.countP_eq_zero]
          intro other inLines
          simp only [decide_eq_true_eq]
          intro inside
          exact apart name here name (List.mem_flatMap.mpr ⟨other, inLines, inside⟩) rfl
        rw [List.countP_cons_of_pos (by simpa using here), absent]
      · have absent : name ∉ declaredNames line := fun here => apart name here name later rfl
        rw [List.countP_cons_of_neg (by simpa using absent)]
        exact ih distinctLater later

end PageCompiler
