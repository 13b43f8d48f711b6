/-
  The tables of a compile for the page alone beside those of one for the editor.

  Both hold the same cells, derived values, dependencies and data loaders in the same order
  (`Tables.skeleton`); what may differ are names, imports and the code that is read. The two take names
  for the same slots, but for the editor the alias of the runtime is taken first. As long as the page
  alone does not want that alias, this changes no other name (`Names.Twin`): the candidates after the
  first end in a digit, so the alias is none of them. Imports of components are compared only where
  components ask for the same ones whatever their props.
-/
import PageCompiler.Proofs.Editor.Parallel
import PageCompiler.Proofs.NameSlots

namespace PageCompiler

/-- The alias that the runtime gets for the editor. -/
def runtimeAlias : Text := "__studioRuntime"

/-- What that alias stands for. -/
def NameSlot.runtime : NameSlot :=
  .imported Environment.runtimeModule ImportTable.wholeSymbol

namespace Names

/-- The same slots are open in both, and as long as the alias of the runtime is not taken on the first
    side, it is all that the second has besides. -/
structure Twin (plain edited : Names) : Prop where
  isOpen : ∀ slot, slot ≠ .runtime → (edited.nameOf? slot = none ↔ plain.nameOf? slot = none)
  same : runtimeAlias ∉ plain.taken →
    (∀ slot, slot ≠ .runtime → edited.nameOf? slot = plain.nameOf? slot) ∧
      ∀ name, name ∈ edited.taken ↔ name = runtimeAlias ∨ name ∈ plain.taken

/-- One more taken alias is of no account for a suggestion that does not get it. -/
theorem freshName_eq_of_runtimeAlias {taken taken' : List Text} {suggestion : Text}
    (unwanted : runtimeAlias ∉ taken ++ [freshName taken suggestion])
    (more : ∀ name, name ∈ taken' ↔ name = runtimeAlias ∨ name ∈ taken) :
    freshName taken' suggestion = freshName taken suggestion := by
  have differs : ∀ number,
      candidateName (Identifier.sanitize suggestion) number ≠ runtimeAlias := by
    intro number isAlias
    cases number with
    | zero =>
        -- The alias itself was free, so it would have been taken.
        have isAlias : Identifier.sanitize suggestion = runtimeAlias := isAlias
        have free : isFreeName taken (Identifier.sanitize suggestion) = true := by
          rw [isAlias, isFreeName_iff]
          exact ⟨by decide, fun member => unwanted (List.mem_append_left _ member)⟩
        rw [freshName_eq_sanitize free, isAlias] at unwanted
        exact unwanted (by simp)
    | succ number =>
        have numbered := isNumbered_candidateName (Identifier.sanitize suggestion) number
        rw [isAlias] at numbered
        exact absurd numbered (by decide)
  refine freshName_congr fun number => ?_
  rw [Bool.eq_iff_iff, isFreeName_iff, isFreeName_iff, more, not_or]
  simp [differs number]

theorem Twin.take {plain edited : Names} (twin : Twin plain edited) (slot : NameSlot)
    (suggestion : Text) : Twin (plain.take slot suggestion) (edited.take slot suggestion) := by
  refine ⟨?_, ?_⟩
  · intro query notRuntime
    rw [nameOf?_take, nameOf?_take]
    by_cases same : query = slot
    · simp only [if_pos same, reduceCtorEq]
    · simp only [if_neg same]
      exact twin.isOpen query notRuntime
  · intro unwanted
    have before : runtimeAlias ∉ plain.taken :=
      fun member => unwanted (List.mem_append_left _ member)
    obtain ⟨sameNames, more⟩ := twin.same before
    have sameFresh := freshName_eq_of_runtimeAlias unwanted more
    refine ⟨?_, ?_⟩
    · intro query notRuntime
      rw [nameOf?_take, nameOf?_take, sameFresh, sameNames query notRuntime]
    · intro name
      change name ∈ edited.taken ++ [freshName edited.taken suggestion] ↔
        name = runtimeAlias ∨ name ∈ plain.taken ++ [freshName plain.taken suggestion]
      rw [sameFresh, List.mem_append, List.mem_append, more, or_assoc]

end Names

/-- What two compiles have in common, whatever their names: cells by key with node, prop and initial
    value, derived nodes and what they depend on, and queries. -/
structure Skeleton where
  cells : Table (Text × Text × Option Json)
  derived : Table Unit
  dependencies : Table (List Text)
  loaders : Table Unit

namespace Tables

def skeleton (tables : Tables) : Skeleton where
  cells := tables.cells.map fun cell => (cell.nodeId, cell.prop, cell.initial)
  derived := tables.derived.map fun _ => ()
  dependencies := tables.dependencies
  loaders := tables.loaders.map fun _ => ()

/-- The tables of the page alone and of the editor agree, also on names if `strict` holds. -/
structure Beside (strict : Prop) (app : Text) (plain edited : Tables) : Prop where
  skeleton : edited.skeleton = plain.skeleton
  unfrozen : edited.imports.frozen = false
  twin : strict → (plain.names (some app)).Twin (edited.names (some app))

namespace Beside

variable {strict : Prop} {app : Text} {plain edited : Tables} (beside : Beside strict app plain edited)
include beside

theorem dependencies : edited.dependencies = plain.dependencies :=
  congrArg Skeleton.dependencies beside.skeleton

/-- Changes that concern neither what is compared nor names. -/
theorem of_same {plain' edited' : Tables} (sameSkeleton : plain'.skeleton = plain.skeleton)
    (sameSkeleton' : edited'.skeleton = edited.skeleton)
    (sameNames : plain'.names (some app) = plain.names (some app))
    (sameNames' : edited'.names (some app) = edited.names (some app))
    (unfrozen : edited'.imports.frozen = false) : Beside strict app plain' edited' := by
  refine ⟨?_, unfrozen, fun isStrict => ?_⟩
  · rw [sameSkeleton, sameSkeleton', beside.skeleton]
  · rw [sameNames, sameNames']
    exact beside.twin isStrict

end Beside

end Tables

namespace Compile

open Tables

variable {strict : Prop} {app : Text}

end Compile

end PageCompiler
