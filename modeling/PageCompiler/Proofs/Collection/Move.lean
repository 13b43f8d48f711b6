/-
  What collection can do to the tables, one move at a time, and why.

  `CollectMove` lists the moves. Nothing is ever taken out of a table or given another meaning
  (`Extends`, `Reads.extend`), and whatever stands in a table was asked for by a reference of a
  reached node (`Justified`). Both follow from one move to whole runs.
-/
import Mathlib.Logic.Relation
import PageCompiler.Compilation.DerivedOrder
import PageCompiler.Proofs.Collection.Reach

namespace PageCompiler

open Collection DerivedOrder

namespace Environment

/-- The code that reads a reference: the cell of an element's prop, or a derived value, followed by
    the rest of the path. -/
inductive Reads (env : Environment) (tables : Tables) (reference : Text) : Text → Prop
  | element {element : Node} {cell : Cell} :
      env.target? reference = some element → element.isElement = true →
      tables.cell? element.id ((Reference.path reference).headD []) = some cell →
      Reads env tables reference (accessor cell.state (Reference.path reference).tail)
  | derived {target : Node} {identifier : Text} :
      env.target? reference = some target → target.isDerived = true →
      tables.derived.get? target.id = some identifier →
      Reads env tables reference (accessor identifier (Reference.path reference))

/-- One change that collection makes to the tables. -/
inductive CollectMove (env : Environment) (tables : Tables) : Tables → Prop
  | warn (warning : Warning) :
      CollectMove env tables { tables with warnings := tables.warnings ++ [warning] }
  | cell {reference prop state setter : Text} {element : Node} {argument : Argument} :
      env.Needs reference element → element.isElement = true →
      prop = (Reference.path reference).headD [] →
      controlledArgument env element prop = .ok argument →
      tables.cell? element.id prop = none →
      state = freshName tables.scope.names (Identifier.camelCase [element.name, prop]) →
      setter = freshName (tables.scope.names ++ [state])
        (Identifier.camelCase ["set", element.name, prop]) →
      CollectMove env tables
        { tables with
          scope := ⟨tables.scope.names ++ [state] ++ [setter]⟩
          cells := tables.cells.insert (cellKey element.id prop)
            ⟨element.id, prop, state, setter,
              (authoredConstant? element prop).or argument.defaultValue⟩ }
  | derived {reference identifier : Text} {target : Node} :
      env.Needs reference target → target.isDerived = true →
      tables.derived.get? target.id = none →
      identifier = freshName tables.scope.names target.name →
      CollectMove env tables
        { tables with
          scope := ⟨tables.scope.names ++ [identifier]⟩
          derived := tables.derived.insert target.id identifier
          dependencies :=
            if tables.dependencies.contains target.id then tables.dependencies
            else tables.dependencies.insert target.id [] }
  | dependency {id dependencyId : Text} {extended : List Text} :
      env.DependsOn id dependencyId →
      (∀ other, other ∈ extended ↔
        other ∈ successors tables.dependencies id ∨ other = dependencyId) →
      CollectMove env tables
        { tables with dependencies := tables.dependencies.insert id extended }
  | accessor {reference code : Text} {target : Node} :
      env.Needs reference target → env.Reads tables reference code →
      CollectMove env tables { tables with accessors := tables.accessors.insert reference code }

/-- Any number of moves. -/
def Collects (env : Environment) : Tables → Tables → Prop :=
  Relation.ReflTransGen env.CollectMove

end Environment

theorem successors_insert (table : Table (List Text)) (id query : Text) (ids : List Text) :
    successors (table.insert id ids) query = if query = id then ids else successors table query := by
  unfold successors
  rw [Table.get?_insert]
  split <;> rfl

/-- Opening the list of a derived node adds no dependency. -/
theorem successors_open (table : Table (List Text)) (id query : Text) :
    successors (if table.contains id then table else table.insert id []) query =
      successors table query := by
  split
  · rfl
  · next absent =>
      rw [successors_insert]
      split
      · next same =>
          subst same
          have missing : table.get? query = none := by
            simpa [Table.contains] using absent
          simp [successors, missing]
      · rfl

namespace Tables

/-- Later tables hold all that earlier ones hold. -/
structure Extends (before after : Tables) : Prop where
  cells : ∀ {key cell}, before.cells.get? key = some cell → after.cells.get? key = some cell
  derived : ∀ {id identifier}, before.derived.get? id = some identifier →
    after.derived.get? id = some identifier
  dependencies : ∀ {id dependencyId}, dependencyId ∈ successors before.dependencies id →
    dependencyId ∈ successors after.dependencies id

theorem Extends.refl (tables : Tables) : tables.Extends tables := ⟨id, id, id⟩

theorem Extends.trans {first second third : Tables} (earlier : first.Extends second)
    (later : second.Extends third) : first.Extends third :=
  ⟨later.cells ∘ earlier.cells, later.derived ∘ earlier.derived,
    later.dependencies ∘ earlier.dependencies⟩

end Tables

namespace Environment

variable {env : Environment} {before after tables : Tables} {reference code : Text}

theorem CollectMove.extends (move : env.CollectMove before after) : before.Extends after := by
  cases move with
  | warn warning => exact ⟨id, id, id⟩
  | cell _ _ _ _ absent _ _ =>
      exact ⟨fun found => Table.get?_insert_of_some _ absent found, id, id⟩
  | derived _ _ absent _ =>
      refine ⟨id, fun found => Table.get?_insert_of_some _ absent found, ?_⟩
      intro id dependencyId member
      rwa [successors_open]
  | dependency _ members =>
      refine ⟨id, id, ?_⟩
      intro query other member
      rw [successors_insert]
      split
      · next same =>
          subst same
          exact (members other).mpr (.inl member)
      · exact member
  | accessor _ _ => exact ⟨id, id, id⟩

theorem Collects.extends (moves : env.Collects before after) : before.Extends after := by
  induction moves with
  | refl => exact .refl _
  | tail _ move ih => exact ih.trans move.extends

/-- Collection asks for no import. -/
theorem Collects.imports_eq (moves : env.Collects before after) : after.imports = before.imports := by
  induction moves with
  | refl => rfl
  | tail _ move ih =>
      rw [← ih]
      cases move <;> rfl

theorem Reads.extend (reads : env.Reads before reference code) (extended : before.Extends after) :
    env.Reads after reference code := by
  cases reads with
  | element named isElement found => exact .element named isElement (extended.cells found)
  | derived named isDerived found => exact .derived named isDerived (extended.derived found)

theorem Reads.cell {element : Node} (reads : env.Reads tables reference code)
    (named : env.target? reference = some element) (isElement : element.isElement = true) :
    ∃ cell, tables.cell? element.id ((Reference.path reference).headD []) = some cell ∧
      code = accessor cell.state (Reference.path reference).tail := by
  cases reads with
  | @element _ cell named' _ found =>
      cases named.symm.trans named'
      exact ⟨cell, found, rfl⟩
  | derived named' isDerived _ =>
      cases named.symm.trans named'
      rw [Node.isDerived_eq_false_of_isElement isElement] at isDerived
      cases isDerived

theorem Reads.identifier {target : Node} (reads : env.Reads tables reference code)
    (named : env.target? reference = some target) (isDerived : target.isDerived = true) :
    ∃ identifier, tables.derived.get? target.id = some identifier ∧
      code = accessor identifier (Reference.path reference) := by
  cases reads with
  | element named' isElement _ =>
      cases named.symm.trans named'
      rw [Node.isDerived_eq_false_of_isElement isElement] at isDerived
      cases isDerived
  | @derived _ identifier named' _ found =>
      cases named.symm.trans named'
      exact ⟨identifier, found, rfl⟩

theorem Reads.unique {code' : Text} (reads : env.Reads tables reference code)
    (reads' : env.Reads tables reference code') : code = code' := by
  cases reads with
  | element named isElement found =>
      obtain ⟨cell, found', rfl⟩ := reads'.cell named isElement
      cases found.symm.trans found'
      rfl
  | derived named isDerived found =>
      obtain ⟨identifier, found', rfl⟩ := reads'.identifier named isDerived
      cases found.symm.trans found'
      rfl

/-- The accessors hold the code that reads the reference. -/
def HasAccessor (env : Environment) (tables : Tables) (reference : Text) : Prop :=
  ∃ code, env.Reads tables reference code ∧ tables.accessors.get? reference = some code

theorem CollectMove.hasAccessor (move : env.CollectMove before after)
    (has : env.HasAccessor before reference) : env.HasAccessor after reference := by
  obtain ⟨code, reads, found⟩ := has
  refine ⟨code, reads.extend move.extends, ?_⟩
  cases move with
  | @accessor other otherCode _ _ otherReads =>
      by_cases same : reference = other
      · subst same
        rw [reads.unique otherReads]
        exact Table.get?_insert_self _ _ _
      · rw [Table.get?_insert_of_ne _ same]
        exact found
  | warn _ => exact found
  | cell _ _ _ _ _ _ _ => exact found
  | derived _ _ _ _ => exact found
  | dependency _ _ => exact found

theorem Collects.hasAccessor (moves : env.Collects before after)
    (has : env.HasAccessor before reference) : env.HasAccessor after reference := by
  induction moves with
  | refl => exact has
  | tail _ move ih => exact move.hasAccessor ih

/-- Whatever the tables hold was asked for by a reached node. -/
structure Justified (env : Environment) (tables : Tables) : Prop where
  cells : ∀ {key cell}, tables.cells.get? key = some cell →
    ∃ reference element argument, env.Needs reference element ∧ element.isElement = true ∧
      cell.prop = (Reference.path reference).headD [] ∧
      controlledArgument env element cell.prop = .ok argument ∧
      cell.nodeId = element.id ∧ key = cellKey cell.nodeId cell.prop ∧
      cell.initial = (authoredConstant? element cell.prop).or argument.defaultValue
  derived : ∀ {id identifier}, tables.derived.get? id = some identifier →
    ∃ reference target, env.Needs reference target ∧ target.isDerived = true ∧ target.id = id
  dependencies : ∀ {id dependencyId}, dependencyId ∈ successors tables.dependencies id →
    env.DependsOn id dependencyId
  accessors : ∀ {reference code}, tables.accessors.get? reference = some code →
    (∃ target, env.Needs reference target) ∧ env.Reads tables reference code

theorem CollectMove.justified (move : env.CollectMove before after)
    (justified : env.Justified before) : env.Justified after := by
  have kept : ∀ {reference code}, before.accessors.get? reference = some code →
      (∃ target, env.Needs reference target) ∧ env.Reads after reference code := by
    intro reference code found
    obtain ⟨needed, reads⟩ := justified.accessors found
    exact ⟨needed, reads.extend move.extends⟩
  cases move with
  | warn warning => exact ⟨justified.cells, justified.derived, justified.dependencies, kept⟩
  | @cell reference prop state setter element argument needs isElement isProp accepted _ _ _ =>
      refine ⟨?_, justified.derived, justified.dependencies, kept⟩
      intro key cell found
      rw [Table.get?_insert] at found
      split at found
      · next same =>
          cases found
          exact ⟨reference, element, argument, needs, isElement, isProp, accepted, rfl, same, rfl⟩
      · exact justified.cells found
  | @derived reference identifier target needs isDerived _ _ =>
      refine ⟨justified.cells, ?_, ?_, kept⟩
      · intro id stored found
        rw [Table.get?_insert] at found
        split at found
        · next same => exact ⟨reference, target, needs, isDerived, same.symm⟩
        · exact justified.derived found
      · intro id dependencyId member
        rw [successors_open] at member
        exact justified.dependencies member
  | @dependency id dependencyId extended depends members =>
      refine ⟨justified.cells, justified.derived, ?_, kept⟩
      intro query other member
      rw [successors_insert] at member
      split at member
      · next same =>
          subst same
          rcases (members other).mp member with known | rfl
          · exact justified.dependencies known
          · exact depends
      · exact justified.dependencies member
  | @accessor reference code target needs reads =>
      refine ⟨justified.cells, justified.derived, justified.dependencies, ?_⟩
      intro other otherCode found
      rw [Table.get?_insert] at found
      split at found
      · next same =>
          cases found
          subst same
          exact ⟨⟨target, needs⟩, reads.extend ⟨id, id, id⟩⟩
      · exact kept found

theorem Collects.justified (moves : env.Collects before after)
    (justified : env.Justified before) : env.Justified after := by
  induction moves with
  | refl => exact justified
  | tail _ move ih => exact move.justified ih

end Environment

end PageCompiler
