/-
  Collection does not depend on the order in which it meets references.

  Two documents that differ only in order ask for the same cells, derived values and accessors, so
  both collections succeed or both fail, and their tables differ in nothing but the names that were
  free at the time. One renaming turns the names of one run into those of the other. Where no two
  suggestions compete for a name, every slot has the name it suggests in both runs.
-/
import Mathlib.Data.Set.Function
import PageCompiler.Proofs.Collection.Closure
import PageCompiler.Proofs.Collection.Reordering
import PageCompiler.Proofs.NameSlots

namespace PageCompiler

open Collection DerivedOrder

/-- Two injective ways to name the same slots differ by a renaming. -/
theorem exists_renaming {Slot Name : Type} {first second : Slot → Option Name}
    (slots : ∀ slot, (first slot).isSome = (second slot).isSome)
    (distinct : ∀ {slot slot' name}, first slot = some name → first slot' = some name → slot = slot')
    (distinct' : ∀ {slot slot' name}, second slot = some name → second slot' = some name →
      slot = slot') :
    ∃ rename : Name → Name,
      Set.BijOn rename {name | ∃ slot, first slot = some name}
        {name | ∃ slot, second slot = some name} ∧
      ∀ {slot name name'}, first slot = some name → second slot = some name' →
        rename name = name' := by
  classical
  -- A name goes to what the second way calls its slot; the slot is unique, so nothing is left to choose.
  let rename : Name → Name := fun name =>
    if named : ∃ name' slot, first slot = some name ∧ second slot = some name' then named.choose
    else name
  have renamed : ∀ {slot name name'}, first slot = some name → second slot = some name' →
      rename name = name' := by
    intro slot name name' found found'
    have named : ∃ name' slot, first slot = some name ∧ second slot = some name' :=
      ⟨name', slot, found, found'⟩
    obtain ⟨slot', other, other'⟩ := named.choose_spec
    cases distinct found other
    rw [found'] at other'
    simp only [rename, dif_pos named]
    exact (Option.some.inj other').symm
  have counterpart : ∀ {slot name}, first slot = some name → ∃ name', second slot = some name' := by
    intro slot name found
    rw [← Option.isSome_iff_exists, ← slots, found]
    rfl
  refine ⟨rename, ⟨?_, ?_, ?_⟩, renamed⟩
  · rintro name ⟨slot, found⟩
    obtain ⟨name', found'⟩ := counterpart found
    exact ⟨slot, by rw [renamed found found', found']⟩
  · rintro name ⟨slot, found⟩ other ⟨slot', otherFound⟩ same
    obtain ⟨name', found'⟩ := counterpart found
    obtain ⟨other', otherFound'⟩ := counterpart otherFound
    rw [renamed found found', renamed otherFound otherFound'] at same
    subst same
    cases distinct' found' otherFound'
    exact Option.some.inj (found.symm.trans otherFound)
  · rintro name' ⟨slot, found'⟩
    obtain ⟨name, found⟩ : ∃ name, first slot = some name := by
      rw [← Option.isSome_iff_exists, slots, found']
      rfl
    exact ⟨name, ⟨slot, found⟩, renamed found found'⟩

namespace Tables

/-- The names of states, setters and derived values. -/
def generatedNames (tables : Tables) : List Text :=
  tables.cells.values.flatMap (fun cell => [cell.state, cell.setter]) ++ tables.derived.values

/-- The generated name of a slot. -/
def generatedName? (tables : Tables) : NameSlot → Option Text
  | .state key => (tables.cells.get? key).map Cell.state
  | .setter key => (tables.cells.get? key).map Cell.setter
  | .derived id => tables.derived.get? id
  | _ => none

theorem generatedName?_state {tables : Tables} {key : Text} {cell : Cell}
    (found : tables.cells.get? key = some cell) :
    tables.generatedName? (.state key) = some cell.state :=
  congrArg (Option.map Cell.state) found

theorem generatedName?_setter {tables : Tables} {key : Text} {cell : Cell}
    (found : tables.cells.get? key = some cell) :
    tables.generatedName? (.setter key) = some cell.setter :=
  congrArg (Option.map Cell.setter) found

theorem generatedName?_derived (tables : Tables) (id : Text) :
    tables.generatedName? (.derived id) = tables.derived.get? id :=
  rfl

theorem mem_generatedNames {tables : Tables} {name : Text} :
    name ∈ tables.generatedNames ↔ ∃ slot, tables.generatedName? slot = some name := by
  rw [generatedNames, List.mem_append, List.mem_flatMap]
  constructor
  · rintro (⟨cell, member, inside⟩ | member)
    · obtain ⟨key, found⟩ := Table.mem_values_iff.mp member
      rcases List.mem_cons.mp inside with rfl | later
      · exact ⟨.state key, generatedName?_state found⟩
      · rw [List.mem_singleton] at later
        exact ⟨.setter key, later ▸ generatedName?_setter found⟩
    · obtain ⟨id, found⟩ := Table.mem_values_iff.mp member
      exact ⟨.derived id, found⟩
  · rintro ⟨slot, found⟩
    cases slot with
    | state key =>
        obtain ⟨cell, stored, rfl⟩ := Option.map_eq_some_iff.mp found
        exact .inl ⟨cell, Table.mem_values_iff.mpr ⟨key, stored⟩, by simp⟩
    | setter key =>
        obtain ⟨cell, stored, rfl⟩ := Option.map_eq_some_iff.mp found
        exact .inl ⟨cell, Table.mem_values_iff.mpr ⟨key, stored⟩, by simp⟩
    | derived id => exact .inr (Table.mem_values_iff.mpr ⟨id, found⟩)
    | imported _ _ => cases found
    | app => cases found
    | loader _ => cases found

theorem nameOf?_of_generatedName? {tables : Tables} {slot : NameSlot} {name : Text}
    (app : Option Text) (found : tables.generatedName? slot = some name) :
    (tables.names app).nameOf? slot = some name := by
  cases slot <;> first | exact found | cases found

theorem generatedName?_inj {tables : Tables} {app : Option Text} (own : (tables.names app).Own)
    {slot slot' : NameSlot} {name : Text} (found : tables.generatedName? slot = some name)
    (found' : tables.generatedName? slot' = some name) : slot = slot' :=
  own.distinct (nameOf?_of_generatedName? app found) (nameOf?_of_generatedName? app found')

/-- The generated names of two runs correspond to each other one to one, and the code that reads a
    reference differs in its first name only. -/
structure Renames (first second : Tables) (rename : Text → Text) : Prop where
  bijective : Set.BijOn rename {name | name ∈ first.generatedNames}
    {name | name ∈ second.generatedNames}
  cells : ∀ {key cell cell'}, first.cells.get? key = some cell →
    second.cells.get? key = some cell' →
    rename cell.state = cell'.state ∧ rename cell.setter = cell'.setter
  derived : ∀ {id identifier identifier'}, first.derived.get? id = some identifier →
    second.derived.get? id = some identifier' → rename identifier = identifier'
  accessors : ∀ {reference code}, first.accessors.get? reference = some code →
    ∃ head path, Text.segments code = head :: path ∧ head ∈ first.generatedNames ∧
      second.accessors.get? reference = some (accessor (rename head) path)

/-- The tables of two runs are wired in the same way. -/
structure SameWiring (first second : Tables) : Prop where
  cells : ∀ key, key ∈ second.cells.keys ↔ key ∈ first.cells.keys
  derived : ∀ id, id ∈ second.derived.keys ↔ id ∈ first.derived.keys
  accessors : ∀ reference, reference ∈ second.accessors.keys ↔ reference ∈ first.accessors.keys
  initials : ∀ {key cell cell'}, first.cells.get? key = some cell →
    second.cells.get? key = some cell' → cell'.initial = cell.initial
  dependencies : ∀ id dependencyId, dependencyId ∈ successors second.dependencies id ↔
    dependencyId ∈ successors first.dependencies id
  renames : ∃ rename, Renames first second rename

end Tables

namespace Environment

variable {env env' : Environment} {tables after after' : Tables} {reference code code' : Text}

/-- The cell of the same prop in the other run. -/
theorem CollectedExactly.exists_cell (same : env.Reorders env') (consistent : env.Consistent)
    (consistent' : env'.Consistent) (exact : env.CollectedExactly after)
    (exact' : env'.CollectedExactly after') {key : Text} {cell : Cell}
    (found : after.cells.get? key = some cell) :
    ∃ cell', after'.cells.get? key = some cell' ∧ cell'.initial = cell.initial := by
  have member : cell ∈ after.cells.values := Table.mem_values_iff.mpr ⟨key, found⟩
  obtain ⟨reference, element, needs, isElement, isId, first⟩ :=
    (exact.cells cell.nodeId cell.prop).mp ⟨cell, member, rfl, rfl⟩
  obtain ⟨element', needs', elements⟩ := needs.counterpart same
  obtain ⟨cell', member', sameId, sameProp⟩ := (exact'.cells cell.nodeId cell.prop).mpr
    ⟨reference, element', needs', by rw [elements.isElement_eq, isElement],
      elements.id_eq.trans isId, first⟩
  obtain ⟨key', found'⟩ := Table.mem_values_iff.mp member'
  have sameKey : key' = key := by
    rw [exact.keys key cell found, exact'.keys key' cell' found', sameId, sameProp]
  subst sameKey
  refine ⟨cell', found', ?_⟩
  -- Both initial values come from the document and the catalog, which do not know the order.
  obtain ⟨owner, component, argument, stored, rendered, declared, initial⟩ :=
    exact.initial cell member
  obtain ⟨owner', component', argument', stored', rendered', declared', initial'⟩ :=
    exact'.initial cell' member'
  have isOwner : owner = element := by
    rw [← isId, consistent.get?_target needs.named] at stored
    exact (Option.some.inj stored).symm
  have isOwner' : owner' = element' := by
    rw [sameId, ← isId, ← elements.id_eq, consistent'.get?_target needs'.named] at stored'
    exact (Option.some.inj stored').symm
  subst isOwner isOwner'
  rw [same.component?_eq elements, rendered] at rendered'
  cases rendered'
  rw [sameProp, declared] at declared'
  cases declared'
  rw [startsFrom_iff.mp initial', startsFrom_iff.mp initial, sameProp, elements.authoredConstant?_eq]

/-- Both runs read a reference through the same slot. -/
theorem Reads.counterpart {target : Node} (same : env.Reorders env')
    (needs : env.Needs reference target) (reads : env.Reads after reference code)
    (reads' : env'.Reads after' reference code') :
    ∃ slot head head' path, (∃ suggestion, env.Suggests slot suggestion) ∧
      after.generatedName? slot = some head ∧ after'.generatedName? slot = some head' ∧
      code = accessor head path ∧ code' = accessor head' path ∧
      ∀ piece ∈ path, CodePoint.char '.' ∉ piece := by
  cases reads with
  | @element element cell named isElement found =>
      cases needs.named.symm.trans named
      obtain ⟨element', named', elements⟩ := same.exists_target named
      obtain ⟨cell', found', rfl⟩ := reads'.cell named' (by rw [elements.isElement_eq, isElement])
      rw [elements.id_eq] at found'
      refine ⟨.state (cellKey target.id ((Reference.path reference).headD [])), cell.state,
        cell'.state, _, ⟨_, .state needs isElement rfl⟩, ?_, ?_, rfl, rfl, ?_⟩
      · exact Tables.generatedName?_state found
      · exact Tables.generatedName?_state found'
      · exact fun piece inside => Reference.dot_not_mem_path (List.mem_of_mem_tail inside)
  | @derived target identifier named isDerived found =>
      cases needs.named.symm.trans named
      obtain ⟨target', named', targets⟩ := same.exists_target named
      obtain ⟨identifier', found', rfl⟩ :=
        reads'.identifier named' (by rw [targets.isDerived_eq, isDerived])
      rw [targets.id_eq] at found'
      exact ⟨.derived target.id, identifier, identifier', _, ⟨_, .derived needs isDerived⟩, found,
        found', rfl, rfl, fun _ => Reference.dot_not_mem_path⟩

theorem CollectedExactly.mem_derived (same : env.Reorders env')
    (exact : env.CollectedExactly after) (exact' : env'.CollectedExactly after') {id : Text}
    (member : id ∈ after.derived.keys) : id ∈ after'.derived.keys := by
  obtain ⟨reference, target, needs, isDerived, rfl⟩ := (exact.derived id).mp member
  obtain ⟨target', needs', targets⟩ := needs.counterpart same
  exact (exact'.derived target.id).mpr
    ⟨reference, target', needs', by rw [targets.isDerived_eq, isDerived], targets.id_eq⟩

theorem CollectedExactly.mem_accessors (same : env.Reorders env')
    (exact : env.CollectedExactly after) (exact' : env'.CollectedExactly after')
    (member : reference ∈ after.accessors.keys) : reference ∈ after'.accessors.keys := by
  obtain ⟨target, needs, notPage⟩ := (exact.accessors reference).mp member
  obtain ⟨target', needs', targets⟩ := needs.counterpart same
  exact (exact'.accessors reference).mpr ⟨target', needs', by rw [targets.isPage_eq, notPage]⟩

theorem CollectedExactly.mem_cells (same : env.Reorders env') (consistent : env.Consistent)
    (consistent' : env'.Consistent) (exact : env.CollectedExactly after)
    (exact' : env'.CollectedExactly after') {key : Text} (member : key ∈ after.cells.keys) :
    key ∈ after'.cells.keys := by
  obtain ⟨cell, found⟩ := Table.mem_keys_iff.mp member
  obtain ⟨cell', found', _⟩ := exact.exists_cell same consistent consistent' exact' found
  exact Table.mem_keys_iff.mpr ⟨cell', found'⟩

theorem isSome_get?_eq {α β : Type} {table : Table α} {other : Table β}
    (keys : ∀ key, key ∈ other.keys ↔ key ∈ table.keys) (key : Text) :
    (table.get? key).isSome = (other.get? key).isSome := by
  rw [Bool.eq_iff_iff, Option.isSome_iff_exists, Option.isSome_iff_exists, ← Table.mem_keys_iff,
    ← Table.mem_keys_iff, keys]

/-- Runs that are exact for documents which differ in order only are wired in the same way. -/
theorem CollectedExactly.sameWiring {app app' : Option Text} (same : env.Reorders env')
    (consistent : env.Consistent) (consistent' : env'.Consistent)
    (exact : env.CollectedExactly after) (exact' : env'.CollectedExactly after')
    (own : (after.names app).Own) (own' : (after'.names app').Own) :
    after.SameWiring after' := by
  have cells : ∀ key, key ∈ after'.cells.keys ↔ key ∈ after.cells.keys := fun key =>
    ⟨exact'.mem_cells same.symm consistent' consistent exact,
      exact.mem_cells same consistent consistent' exact'⟩
  have derived : ∀ id, id ∈ after'.derived.keys ↔ id ∈ after.derived.keys := fun id =>
    ⟨exact'.mem_derived same.symm exact, exact.mem_derived same exact'⟩
  have accessors : ∀ reference, reference ∈ after'.accessors.keys ↔
      reference ∈ after.accessors.keys := fun reference =>
    ⟨exact'.mem_accessors same.symm exact, exact.mem_accessors same exact'⟩
  refine ⟨cells, derived, accessors, ?_, ?_, ?_⟩
  · intro key cell cell' found found'
    obtain ⟨other, foundOther, initial⟩ :=
      exact.exists_cell same consistent consistent' exact' found
    cases found'.symm.trans foundOther
    exact initial
  · intro id dependencyId
    rw [exact.dependencies, exact'.dependencies]
    exact ⟨DependsOn.counterpart same.symm, DependsOn.counterpart same⟩
  · have slots : ∀ slot, (after.generatedName? slot).isSome = (after'.generatedName? slot).isSome := by
      intro slot
      cases slot with
      | state key => simpa [Tables.generatedName?] using isSome_get?_eq cells key
      | setter key => simpa [Tables.generatedName?] using isSome_get?_eq cells key
      | derived id => exact isSome_get?_eq derived id
      | _ => rfl
    obtain ⟨rename, bijective, renamed⟩ :=
      exists_renaming slots (Tables.generatedName?_inj own) (Tables.generatedName?_inj own')
    refine ⟨rename, ?_, ?_, ?_, ?_⟩
    · simpa only [Tables.mem_generatedNames] using bijective
    · intro key cell cell' found found'
      exact ⟨renamed (Tables.generatedName?_state found) (Tables.generatedName?_state found'),
        renamed (Tables.generatedName?_setter found) (Tables.generatedName?_setter found')⟩
    · intro id identifier identifier' found found'
      rw [← Tables.generatedName?_derived] at found found'
      exact renamed found found'
    · intro reference code found
      obtain ⟨code', found'⟩ := Table.mem_keys_iff.mp
        ((accessors reference).mpr (Table.mem_keys_iff.mpr ⟨code, found⟩))
      obtain ⟨target, needs, _⟩ :=
        (exact.accessors reference).mp (Table.mem_keys_iff.mpr ⟨code, found⟩)
      obtain ⟨slot, head, head', path, _, isHead, isHead', rfl, rfl, plain⟩ :=
        (exact.reads reference code found).counterpart same needs
          (exact'.reads reference code' found')
      refine ⟨head, path, ?_, Tables.mem_generatedNames.mpr ⟨slot, isHead⟩, ?_⟩
      · have taken := own.taken (Tables.nameOf?_of_generatedName? _ isHead)
        exact segments_accessor (own.proper head taken).1 plain
      · rw [found', renamed isHead isHead']

end Environment

/-- No two slots suggest the same name, and every suggested name is free. -/
structure Undisputed (suggests : NameSlot → Text → Prop) (taken : List Text) : Prop where
  free : ∀ {slot suggestion}, suggests slot suggestion →
    isFreeName taken (Identifier.sanitize suggestion) = true
  distinct : ∀ {slot slot' suggestion suggestion'}, suggests slot suggestion →
    suggests slot' suggestion' →
    Identifier.sanitize suggestion = Identifier.sanitize suggestion' → slot = slot'

/-- Beside the names that were taken before there are only those that slots have suggested. -/
structure Names.AsSuggested (suggests : NameSlot → Text → Prop) (taken : List Text) (names : Names) :
    Prop where
  taken : ∀ name ∈ names.taken, name ∈ taken ∨ ∃ slot suggestion, suggests slot suggestion ∧
    Identifier.sanitize suggestion = name ∧ names.nameOf? slot ≠ none
  named : ∀ {slot suggestion name}, suggests slot suggestion → names.nameOf? slot = some name →
    ∃ suggestion', suggests slot suggestion' ∧ name = Identifier.sanitize suggestion'

/-- An open slot gets the name it suggests: only the slot itself could have taken it. -/
theorem NameMove.asSuggested {suggests : NameSlot → Text → Prop} {taken : List Text}
    {before after : Names} (undisputed : Undisputed suggests taken)
    (suggested : before.AsSuggested suggests taken) (move : NameMove suggests before after) :
    after.AsSuggested suggests taken := by
  cases move with
  | @take slot suggestion wanted isOpen =>
      obtain ⟨unreserved, notTaken⟩ := isFreeName_iff.mp (undisputed.free wanted)
      have free : Identifier.sanitize suggestion ∉ before.taken := by
        intro member
        rcases suggested.taken _ member with old | ⟨slot', suggestion', wanted', same, filled⟩
        · exact notTaken old
        · cases undisputed.distinct wanted' wanted same
          exact filled isOpen
      have isName := freshName_eq_sanitize (isFreeName_iff.mpr ⟨unreserved, free⟩)
      refine ⟨?_, ?_⟩
      · intro name member
        rcases List.mem_append.mp member with old | new
        · refine (suggested.taken name old).imp id ?_
          rintro ⟨slot', suggestion', wanted', same, filled⟩
          refine ⟨slot', suggestion', wanted', same, ?_⟩
          rw [Names.nameOf?_take]
          split
          · simp
          · exact filled
        · rw [List.mem_singleton] at new
          refine .inr ⟨slot, suggestion, wanted, by rw [new, isName], ?_⟩
          rw [Names.nameOf?_take, if_pos rfl]
          simp
      · intro query suggestion' name wanted' found
        rw [Names.nameOf?_take] at found
        split at found
        · next same =>
            cases found
            exact ⟨suggestion, same ▸ wanted, isName⟩
        · exact suggested.named wanted' found

theorem TakesNames.asSuggested {suggests : NameSlot → Text → Prop} {taken : List Text}
    {before after : Names} (undisputed : Undisputed suggests taken)
    (suggested : before.AsSuggested suggests taken) (moves : TakesNames suggests before after) :
    after.AsSuggested suggests taken := by
  induction moves with
  | refl => exact suggested
  | tail _ move ih => exact move.asSuggested undisputed ih

namespace Environment

variable {env env' : Environment} {tables after after' : Tables} {slot : NameSlot}
  {suggestion suggestion' : Text}

theorem Suggests.counterpart (same : env.Reorders env') (suggests : env.Suggests slot suggestion) :
    env'.Suggests slot suggestion := by
  cases suggests with
  | state needs isElement isProp =>
      obtain ⟨element', needs', elements⟩ := needs.counterpart same
      rw [← elements.id_eq, ← elements.name_eq]
      exact .state needs' (by rw [elements.isElement_eq, isElement]) isProp
  | setter needs isElement isProp =>
      obtain ⟨element', needs', elements⟩ := needs.counterpart same
      rw [← elements.id_eq, ← elements.name_eq]
      exact .setter needs' (by rw [elements.isElement_eq, isElement]) isProp
  | derived needs isDerived =>
      obtain ⟨target', needs', targets⟩ := needs.counterpart same
      rw [← targets.id_eq, ← targets.name_eq]
      exact .derived needs' (by rw [targets.isDerived_eq, isDerived])

/-- The key of a cell tells its element and its prop. -/
theorem Needs.eq_of_cellKey {reference reference' prop prop' : Text} {element element' : Node}
    (consistent : env.Consistent) (needs : env.Needs reference element)
    (needs' : env.Needs reference' element') (isProp : prop = (Reference.path reference).headD [])
    (isProp' : prop' = (Reference.path reference').headD [])
    (same : cellKey element.id prop = cellKey element'.id prop') :
    element = element' ∧ prop = prop' := by
  obtain ⟨sameId, sameProp⟩ := cellKey_inj (isProp ▸ Reference.dot_not_mem_prop reference)
    (isProp' ▸ Reference.dot_not_mem_prop reference') same
  exact ⟨consistent.target_eq needs.named needs'.named sameId, sameProp⟩

theorem Suggests.unique (consistent : env.Consistent) (suggests : env.Suggests slot suggestion)
    (suggests' : env.Suggests slot suggestion') : suggestion = suggestion' := by
  generalize isSlot : slot = other at suggests'
  cases suggests with
  | state needs isElement isProp =>
      cases suggests' with
      | state needs' isElement' isProp' =>
          obtain ⟨rfl, rfl⟩ :=
            needs.eq_of_cellKey consistent needs' isProp isProp' (NameSlot.state.inj isSlot)
          rfl
      | setter _ _ _ => cases isSlot
      | derived _ _ => cases isSlot
  | setter needs isElement isProp =>
      cases suggests' with
      | state _ _ _ => cases isSlot
      | setter needs' isElement' isProp' =>
          obtain ⟨rfl, rfl⟩ :=
            needs.eq_of_cellKey consistent needs' isProp isProp' (NameSlot.setter.inj isSlot)
          rfl
      | derived _ _ => cases isSlot
  | derived needs isDerived =>
      cases suggests' with
      | state _ _ _ => cases isSlot
      | setter _ _ _ => cases isSlot
      | derived needs' _ =>
          rw [consistent.target_eq needs.named needs'.named (NameSlot.derived.inj isSlot)]

theorem Started.asSuggested (started : env.Started tables) (app : Option Text) :
    (tables.names app).AsSuggested env.Suggests tables.scope.names := by
  refine ⟨fun _ member => .inl member, ?_⟩
  intro slot suggestion name suggests found
  cases suggests with
  | state _ _ _ => simp [Tables.names, started.sameCollected.cells, Tables.empty] at found
  | setter _ _ _ => simp [Tables.names, started.sameCollected.cells, Tables.empty] at found
  | derived _ _ => simp [Tables.names, started.sameCollected.derived, Tables.empty] at found

/-- Where every slot has the name it suggests, both runs read a reference by the same code. -/
theorem CollectedExactly.accessors_eq {taken : List Text} {app app' : Option Text}
    (same : env.Reorders env') (consistent : env.Consistent) (exact : env.CollectedExactly after)
    (exact' : env'.CollectedExactly after')
    (suggested : (after.names app).AsSuggested env.Suggests taken)
    (suggested' : (after'.names app').AsSuggested env'.Suggests taken) (reference : Text) :
    after'.accessors.get? reference = after.accessors.get? reference := by
  cases found : after.accessors.get? reference with
  | none =>
      rw [Table.get?_eq_none_iff] at found ⊢
      exact fun member => found (exact'.mem_accessors same.symm exact member)
  | some code =>
      have member : reference ∈ after.accessors.keys := Table.mem_keys_iff.mpr ⟨code, found⟩
      obtain ⟨target, needs, _⟩ := (exact.accessors reference).mp member
      obtain ⟨code', found'⟩ := Table.mem_keys_iff.mp (exact.mem_accessors same exact' member)
      obtain ⟨slot, head, head', path, ⟨wanted, suggests⟩, isHead, isHead', rfl, rfl, _⟩ :=
        (exact.reads reference code found).counterpart same needs
          (exact'.reads reference code' found')
      obtain ⟨first, suggestsFirst, rfl⟩ :=
        suggested.named suggests (Tables.nameOf?_of_generatedName? _ isHead)
      obtain ⟨second, suggestsSecond, rfl⟩ := suggested'.named (suggests.counterpart same)
        (Tables.nameOf?_of_generatedName? _ isHead')
      rw [found', suggestsFirst.unique consistent (suggestsSecond.counterpart same.symm)]

end Environment

/-- Collection from the start of a compile does not depend on the places of siblings or on the order
    of props: it succeeds for both documents or for neither, the tables are wired in the same way,
    and if no suggested name is disputed the accessors are the same. -/
theorem collectPage_order_independent {document document' : Document} {catalog : Catalog}
    {editor : Bool} {page page' : Node} {env env' : Environment} {tables tables' : Tables}
    (keyed : document.Keyed) (reorders : document.Reorders document')
    (member : page ∈ document.values) (member' : page' ∈ document'.values)
    (samePage : page'.id = page.id) (noLoop : ¬ document.snapshot.Below page page)
    (start_ok : Environment.start document catalog editor page = .ok (env, tables))
    (start_ok' : Environment.start document' catalog editor page' = .ok (env', tables')) :
    ((∃ after, (collectPage env).run tables = .ok () after) ↔
      ∃ after', (collectPage env').run tables' = .ok () after') ∧
    ∀ after after', (collectPage env).run tables = .ok () after →
      (collectPage env').run tables' = .ok () after' →
      after.SameWiring after' ∧
        (Undisputed env.Suggests tables.scope.names →
          ∀ reference, after'.accessors.get? reference = after.accessors.get? reference) := by
  have started := Environment.started_of_start start_ok
  have started' := Environment.started_of_start start_ok'
  have consistent := Environment.consistent_of_start keyed member start_ok
  have consistent' := Environment.consistent_of_start (reorders.keyed keyed) member' start_ok'
  have sameTables := Environment.start_tables_eq start_ok start_ok'
  obtain ⟨isDocument, isPage, isCatalog, -⟩ := Environment.start_given start_ok
  obtain ⟨isDocument', isPage', isCatalog', -⟩ := Environment.start_given start_ok'
  have same : env.Reorders env' := by
    subst isDocument isDocument' isPage isPage'
    exact .of_documents consistent consistent' reorders samePage (isCatalog'.trans isCatalog.symm)
  rw [← isDocument, ← isPage, ← consistent.snapshot_eq] at noLoop
  refine ⟨?_, ?_⟩
  · rw [started.collectPage_succeeds_iff consistent noLoop,
      started'.collectPage_succeeds_iff consistent' (same.noLoop consistent noLoop)]
    constructor
    · exact fun both => ⟨both.1.counterpart same, both.2.counterpart same⟩
    · exact fun both => ⟨both.1.counterpart same.symm, both.2.counterpart same.symm⟩
  · intro after after' ran ran'
    have completed := started.completed consistent ran
    have completed' := started'.completed consistent' ran'
    have exact_ := completed.collectedExactly started consistent
    have exact_' := completed'.collectedExactly started' consistent'
    refine ⟨exact_.sameWiring same consistent consistent' exact_'
      (completed.collects.takesNames.own started.own)
      (completed'.collects.takesNames.own started'.own), ?_⟩
    intro undisputed
    have undisputed' : Undisputed env'.Suggests tables'.scope.names := by
      rw [sameTables]
      exact ⟨fun wanted => undisputed.free (wanted.counterpart same.symm), fun wanted wanted' =>
        undisputed.distinct (wanted.counterpart same.symm) (wanted'.counterpart same.symm)⟩
    have suggested := completed.collects.takesNames.asSuggested undisputed
      (started.asSuggested (some env.appName))
    have suggested' := completed'.collects.takesNames.asSuggested undisputed'
      (started'.asSuggested (some env'.appName))
    rw [sameTables] at suggested'
    exact exact_.accessors_eq same consistent exact_' suggested suggested'

namespace Form

/-- The form with its label last and the props of the label turned round. -/
def reordered : Document :=
  .ofList [("page", page),
    ("label", placed "label" "Typography" "d" [
      ("variant", some (.const (.str "h1"))), ("value", some (.binding "total.sum"))]),
    ("field", field), ("grid", grid), ("total", total)]

theorem reorders : document.Reorders reordered := by
  have self : ∀ entry : Text × Node, entry.1 = entry.1 ∧ entry.2.Reorders entry.2 :=
    fun _ => ⟨rfl, rfl, rfl, rfl, rfl, rfl, .refl _⟩
  exact .cons (self _) (.cons ⟨rfl, rfl, rfl, rfl, rfl, rfl, .swap _ _ _⟩
    (.cons (self _) (.cons (self _) (.cons (self _) .nil))))

theorem needs_eq {env : Environment} (consistent : env.Consistent)
    (isDocument : env.document = document) {reference : Text} {target : Node}
    (needs : env.Needs reference target) :
    reference = "total.sum" ∧ target = total ∨ reference = "field.value" ∧ target = field := by
  obtain ⟨node, reached, refers, named⟩ := needs
  rw [Environment.target?, consistent.snapshot_eq, isDocument] at named
  refine (reference_eq (isDocument ▸ consistent.mem_values_of_reached reached) refers).imp ?_ ?_
  · rintro rfl
    exact ⟨rfl, (Option.some.inj named).symm⟩
  · rintro rfl
    exact ⟨rfl, (Option.some.inj named).symm⟩

/-- The names that the form suggests. -/
def suggested : List (NameSlot × Text) := [
  (.state "field.value", "fieldValue"), (.setter "field.value", "setFieldValue"),
  (.derived "total", "total")]

theorem mem_suggested {env : Environment} (consistent : env.Consistent)
    (isDocument : env.document = document) {slot : NameSlot} {suggestion : Text}
    (suggests : env.Suggests slot suggestion) : (slot, suggestion) ∈ suggested := by
  cases suggests with
  | state needs isElement isProp =>
      rcases needs_eq consistent isDocument needs with ⟨_, rfl⟩ | ⟨rfl, rfl⟩
      · cases isElement
      · subst isProp
        decide
  | setter needs isElement isProp =>
      rcases needs_eq consistent isDocument needs with ⟨_, rfl⟩ | ⟨rfl, rfl⟩
      · cases isElement
      · subst isProp
        decide
  | derived needs isDerived =>
      rcases needs_eq consistent isDocument needs with ⟨_, rfl⟩ | ⟨_, rfl⟩
      · decide
      · cases isDerived

theorem undisputed {env : Environment} {tables : Tables}
    (start_ok : Environment.start document Catalog.builtin false page = .ok (env, tables)) :
    Undisputed env.Suggests tables.scope.names := by
  have consistent := Environment.consistent_of_start (by decide) List.mem_cons_self start_ok
  have isDocument := (Environment.start_given start_ok).1
  have isFree : ∀ entry ∈ suggested,
      isFreeName tables.scope.names (Identifier.sanitize entry.2) = true := by
    cases start_ok
    decide
  have areDistinct : ∀ entry ∈ suggested, ∀ entry' ∈ suggested,
      Identifier.sanitize entry.2 = Identifier.sanitize entry'.2 → entry.1 = entry'.1 := by
    decide
  exact ⟨fun wanted => isFree _ (mem_suggested consistent isDocument wanted),
    fun wanted wanted' => areDistinct _ (mem_suggested consistent isDocument wanted) _
      (mem_suggested consistent isDocument wanted')⟩

end Form

theorem collectPage_order_independent_form : ∃ env env' tables tables' after after',
    Environment.start Form.document Catalog.builtin false Form.page = .ok (env, tables) ∧
      Environment.start Form.reordered Catalog.builtin false Form.page = .ok (env', tables') ∧
      (collectPage env).run tables = .ok () after ∧
      (collectPage env').run tables' = .ok () after' ∧ after.SameWiring after' ∧
      ∀ reference, after'.accessors.get? reference = after.accessors.get? reference := by
  obtain ⟨env, tables, after, start_ok, ran⟩ := Form.exists_collected
  obtain ⟨env', tables', start_ok'⟩ :=
    Environment.exists_start Form.reordered Catalog.builtin false Form.page
  obtain ⟨both, wired⟩ := collectPage_order_independent (by decide) Form.reorders
    List.mem_cons_self List.mem_cons_self rfl Form.noLoop start_ok start_ok'
  obtain ⟨after', ran'⟩ := both.mp ⟨after, ran⟩
  obtain ⟨same, undisputed⟩ := wired after after' ran ran'
  exact ⟨env, env', tables, tables', after, after', start_ok, start_ok', ran, ran', same,
    undisputed (Form.undisputed start_ok)⟩

end PageCompiler
