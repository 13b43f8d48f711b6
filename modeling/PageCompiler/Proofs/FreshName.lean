/-
  The name that a scope hands out is free, is an identifier, and is the plain identifier of the
  suggestion whenever that one is free.

  The search looks at finitely many candidates. They are distinct, and there are more of them than
  names that are taken or reserved, so one of them is free.
-/
import Mathlib.Data.List.Nodup
import PageCompiler.Scope

namespace PageCompiler

theorem Text.ofNat_injective : Function.Injective Text.ofNat := by
  intro left right same
  have digits : Nat.toDigits 10 left = Nat.toDigits 10 right := by
    simpa [Text.toChars_ofChars, Text.ofNat] using congrArg Text.toChars same
  simpa [Nat.ofDigitChars_ten_toDigits] using congrArg (Nat.ofDigitChars 10 · 0) digits

theorem Text.ofNat_ne_nil (value : Nat) : Text.ofNat value ≠ [] := by
  simp [Text.ofNat, Text.ofChars, Nat.toDigits_ne_nil]

theorem Text.isPart_of_mem_ofNat {value : Nat} {point : CodePoint}
    (member : point ∈ Text.ofNat value) : Identifier.isPart point := by
  obtain ⟨digit, inDigits, rfl⟩ := List.mem_map.mp member
  have isDigit := Nat.isDigit_of_mem_toDigits (by decide) (by decide) inDigits
  simp [Identifier.isPart, CodePoint.holds, Char.isAlphanum, isDigit]

theorem candidateName_injective (base : Text) : Function.Injective (candidateName base) := by
  intro left right same
  cases left with
  | zero =>
      cases right with
      | zero => rfl
      | succ right =>
          exact absurd same.symm (by simp [candidateName, Text.ofNat_ne_nil])
  | succ left =>
      cases right with
      | zero => exact absurd same (by simp [candidateName, Text.ofNat_ne_nil])
      | succ right => exact Text.ofNat_injective (List.append_cancel_left same)

theorem isValid_candidateName {base : Text} (valid : Identifier.IsValid base) (number : Nat) :
    Identifier.IsValid (candidateName base number) := by
  obtain ⟨first, rest, rfl, start, parts⟩ := valid
  cases number with
  | zero => exact ⟨first, rest, rfl, start, parts⟩
  | succ number =>
      refine ⟨first, rest ++ Text.ofNat (number + 1), rfl, start, ?_⟩
      intro point member
      rcases List.mem_append.mp member with inRest | inNumber
      · exact parts point inRest
      · exact Text.isPart_of_mem_ofNat inNumber

theorem isFreeName_iff {taken : List Text} {name : Text} :
    isFreeName taken name = true ↔ Identifier.isReserved name = false ∧ name ∉ taken := by
  simp [isFreeName]

/-- Among more candidates than there are names to avoid, one is free. -/
theorem exists_free_candidate (taken : List Text) (base : Text) :
    ∃ number ∈ List.range (taken.length + Identifier.reservedWords.length + 1),
      isFreeName taken (candidateName base number) = true := by
  -- Otherwise all candidates, which are distinct, are among fewer names.
  by_contra allTaken
  have avoided : ∀ number ∈ List.range (taken.length + Identifier.reservedWords.length + 1),
      candidateName base number ∈ taken ++ Identifier.reservedWords := by
    intro number inRange
    by_contra outside
    rw [List.mem_append, not_or] at outside
    refine allTaken ⟨number, inRange, isFreeName_iff.mpr ⟨?_, outside.1⟩⟩
    simpa [Identifier.isReserved] using outside.2
  have distinct := List.Nodup.map (candidateName_injective base)
    (List.nodup_range (n := taken.length + Identifier.reservedWords.length + 1))
  have few := List.Nodup.length_le_of_subset distinct (by
    intro name member
    obtain ⟨number, inRange, rfl⟩ := List.mem_map.mp member
    exact avoided number inRange)
  simp only [List.length_map, List.length_range, List.length_append] at few
  omega

/-- The name is the free candidate with the least number. -/
theorem exists_least_candidate (taken : List Text) (suggestion : Text) :
    ∃ number,
      freshName taken suggestion = candidateName (Identifier.sanitize suggestion) number ∧
      isFreeName taken (candidateName (Identifier.sanitize suggestion) number) = true ∧
      ∀ less < number,
        isFreeName taken (candidateName (Identifier.sanitize suggestion) less) = false := by
  obtain ⟨number, inRange, free⟩ :=
    exists_free_candidate taken (Identifier.sanitize suggestion)
  have hit : ((List.range (taken.length + Identifier.reservedWords.length + 1)).find?
      fun number => isFreeName taken
        (candidateName (Identifier.sanitize suggestion) number)).isSome :=
    List.find?_isSome.mpr ⟨number, inRange, free⟩
  obtain ⟨first, found⟩ := Option.isSome_iff_exists.mp hit
  obtain ⟨isFree, _, least⟩ := List.find?_range_eq_some.mp found
  refine ⟨first, by simp [freshName, found], isFree, ?_⟩
  intro less isLess
  simpa using least less isLess

theorem isFreeName_freshName (taken : List Text) (suggestion : Text) :
    isFreeName taken (freshName taken suggestion) = true := by
  obtain ⟨number, isName, free, _⟩ := exists_least_candidate taken suggestion
  rw [isName, free]

theorem freshName_not_mem (taken : List Text) (suggestion : Text) :
    freshName taken suggestion ∉ taken :=
  (isFreeName_iff.mp (isFreeName_freshName taken suggestion)).2

theorem isReserved_freshName (taken : List Text) (suggestion : Text) :
    Identifier.isReserved (freshName taken suggestion) = false :=
  (isFreeName_iff.mp (isFreeName_freshName taken suggestion)).1

theorem isValid_freshName (taken : List Text) (suggestion : Text) :
    Identifier.IsValid (freshName taken suggestion) :=
  isValid_candidateName (Identifier.isValid_sanitize suggestion) _

theorem freshName_eq_sanitize {taken : List Text} {suggestion : Text}
    (free : isFreeName taken (Identifier.sanitize suggestion) = true) :
    freshName taken suggestion = Identifier.sanitize suggestion := by
  have first : (List.range (taken.length + Identifier.reservedWords.length + 1)).find?
      (fun number => isFreeName taken
        (candidateName (Identifier.sanitize suggestion) number)) = some 0 := by
    rw [List.range_succ_eq_map]
    exact List.find?_cons_of_pos free
  simp only [freshName, first]
  rfl

/-- Which candidates are free decides the name. -/
theorem freshName_congr {taken taken' : List Text} {suggestion : Text}
    (same : ∀ number, isFreeName taken' (candidateName (Identifier.sanitize suggestion) number) =
      isFreeName taken (candidateName (Identifier.sanitize suggestion) number)) :
    freshName taken' suggestion = freshName taken suggestion := by
  obtain ⟨number, isName, free, least⟩ := exists_least_candidate taken suggestion
  obtain ⟨number', isName', free', least'⟩ := exists_least_candidate taken' suggestion
  rw [← same] at free
  rw [same] at free'
  rcases Nat.lt_trichotomy number number' with less | rfl | more
  · rw [least' number less] at free
    cases free
  · rw [isName, isName']
  · rw [least number' more] at free'
    cases free'

/-- The last code point of the name is a digit. -/
def isNumbered (name : Text) : Bool := name.getLast?.any CodePoint.isDigit

theorem isNumbered_candidateName (base : Text) (number : Nat) :
    isNumbered (candidateName base (number + 1)) = true := by
  have filled := Text.ofNat_ne_nil (number + 1)
  obtain ⟨digit, inDigits, isLast⟩ := List.mem_map.mp (List.getLast_mem filled)
  have isDigit := Nat.isDigit_of_mem_toDigits (by decide) (by decide) inDigits
  rw [isNumbered, candidateName, List.getLast?_append_of_ne_nil _ filled,
    List.getLast?_eq_some_getLast filled, ← isLast]
  exact isDigit

/-- A name without a number is the plain identifier of what was suggested. -/
theorem sanitize_of_freshName {taken : List Text} {suggestion : Text}
    (plain : isNumbered (freshName taken suggestion) = false) :
    Identifier.sanitize suggestion = freshName taken suggestion := by
  obtain ⟨number, isName, _, _⟩ := exists_least_candidate taken suggestion
  cases number with
  | zero => exact isName.symm
  | succ number =>
      rw [isName, isNumbered_candidateName] at plain
      cases plain

end PageCompiler
