/-
  The names that a module declares are distinct, and proper identifiers.

  The tables list every name beside the slot it stands for. No slot is listed twice and no two slots
  share a name, whatever the phases have done, so no name is listed twice.
-/
import Mathlib.Data.List.Nodup
import PageCompiler.Proofs.NameSlots
import PageCompiler.Proofs.PageRun

namespace PageCompiler

namespace Tables

/-- The names of a module's state cells, data loaders and derived values. -/
def bodyNames (tables : Tables) : List Text :=
  tables.cells.values.flatMap (fun cell => [cell.state, cell.setter]) ++ tables.loaders.values
    ++ tables.derived.values

/-- The names that a module with these tables declares: of its imports, of its function and those in
    its body. -/
def moduleNames (tables : Tables) (app : Text) : List Text :=
  tables.imports.modules.entries.flatMap (fun entry => entry.2.values) ++ app :: tables.bodyNames

/-- The same names beside their slots. -/
def namedSlots (tables : Tables) (app : Text) : List (NameSlot × Text) :=
  tables.imports.modules.entries.flatMap
      (fun entry => entry.2.entries.map fun symbol => (.imported entry.1 symbol.1, symbol.2))
    ++ [(.app, app)]
    ++ tables.cells.entries.flatMap
      (fun entry => [(.state entry.1, entry.2.state), (.setter entry.1, entry.2.setter)])
    ++ tables.loaders.entries.map (fun entry => (.loader entry.1, entry.2))
    ++ tables.derived.entries.map (fun entry => (.derived entry.1, entry.2))

variable {tables : Tables} {app : Text}

theorem map_snd_namedSlots : (tables.namedSlots app).map Prod.snd = tables.moduleNames app := by
  simp [namedSlots, moduleNames, bodyNames, Table.values, List.map_flatMap, List.flatMap_map,
    Function.comp_def]

theorem nameOf?_of_mem_namedSlots {slot : NameSlot} {name : Text}
    (member : (slot, name) ∈ tables.namedSlots app) :
    (tables.names (some app)).nameOf? slot = some name := by
  simp only [namedSlots, List.mem_append, List.mem_flatMap, List.mem_map, List.mem_cons,
    List.not_mem_nil, or_false, Prod.mk.injEq] at member
  rcases member with ((((⟨⟨source, symbols⟩, inModules, ⟨symbol, name⟩, inSymbols, rfl, rfl⟩ |
    ⟨rfl, rfl⟩) | ⟨⟨key, cell⟩, inCells, ⟨rfl, rfl⟩ | ⟨rfl, rfl⟩⟩) |
    ⟨⟨query, variable_⟩, inLoaders, rfl, rfl⟩) | ⟨⟨id, identifier⟩, inDerived, rfl, rfl⟩)
  · rw [Table.mem_entries_iff] at inModules inSymbols
    simp [names, ImportTable.localName?, inModules, inSymbols]
  · rfl
  · rw [Table.mem_entries_iff] at inCells
    simp [names, inCells]
  · rw [Table.mem_entries_iff] at inCells
    simp [names, inCells]
  · exact Table.mem_entries_iff.mp inLoaders
  · exact Table.mem_entries_iff.mp inDerived

/-- Lists for the entries of a table that tell their keys share nothing. -/
theorem nodup_flatMap_entries {α β : Type} (table : Table α) {listed : Text × α → List β}
    (each : ∀ entry ∈ table.entries, (listed entry).Nodup)
    (tells : ∀ {entry entry' item}, item ∈ listed entry → item ∈ listed entry' →
      entry.1 = entry'.1) : (table.entries.flatMap listed).Nodup := by
  refine List.nodup_flatMap.mpr ⟨each, ?_⟩
  have distinct : table.entries.Pairwise fun entry entry' => entry.1 ≠ entry'.1 :=
    List.pairwise_map.mp table.distinct
  refine distinct.imp ?_
  intro entry entry' differs item inside inside'
  exact differs (tells inside inside')

theorem nodup_map_entries {α β : Type} (table : Table α) {make : Text → β}
    (injective : ∀ {key key'}, make key = make key' → key = key') :
    (table.entries.map fun entry => make entry.1).Nodup := by
  have keys : table.entries.map (fun entry => make entry.1) = table.keys.map make := by
    simp [Table.keys, Function.comp_def]
  rw [keys]
  exact List.Nodup.map (fun _ _ same => injective same) table.distinct

/-- No slot is listed twice. -/
theorem nodup_slots : ((tables.namedSlots app).map Prod.fst).Nodup := by
  have imported : (tables.imports.modules.entries.flatMap fun entry =>
      entry.2.entries.map fun symbol => NameSlot.imported entry.1 symbol.1).Nodup := by
    refine nodup_flatMap_entries _ ?_ ?_
    · intro entry _
      exact nodup_map_entries entry.2 fun same => (NameSlot.imported.inj same).2
    · intro entry entry' slot inside inside'
      obtain ⟨symbol, _, rfl⟩ := List.mem_map.mp inside
      obtain ⟨symbol', _, same⟩ := List.mem_map.mp inside'
      exact (NameSlot.imported.inj same).1.symm
  have cells : (tables.cells.entries.flatMap fun entry =>
      [NameSlot.state entry.1, NameSlot.setter entry.1]).Nodup := by
    refine nodup_flatMap_entries _ (by simp) ?_
    intro entry entry' slot inside inside'
    simp only [List.mem_cons, List.not_mem_nil, or_false] at inside inside'
    rcases inside with rfl | rfl
    · rcases inside' with same | same
      · exact NameSlot.state.inj same
      · cases same
    · rcases inside' with same | same
      · cases same
      · exact NameSlot.setter.inj same
  have loaders := nodup_map_entries tables.loaders NameSlot.loader.inj
  have derived := nodup_map_entries tables.derived NameSlot.derived.inj
  simp only [namedSlots, List.map_append, List.map_flatMap, List.map_map, List.map_cons,
    List.map_nil, Function.comp_def]
  refine List.nodup_append.mpr ⟨List.nodup_append.mpr ⟨List.nodup_append.mpr
    ⟨List.nodup_append.mpr ⟨imported, by simp, ?_⟩, cells, ?_⟩, loaders, ?_⟩, derived, ?_⟩
  -- Slots of different kinds are different.
  all_goals
    rintro slot inside _ inside' rfl
    cases slot <;> simp at inside inside'

/-- Where every name has its own slot no name is listed twice. -/
theorem nodup_moduleNames (own : (tables.names (some app)).Own) :
    (tables.moduleNames app).Nodup := by
  rw [← map_snd_namedSlots]
  refine List.Nodup.map_on ?_ (List.Nodup.of_map Prod.fst nodup_slots)
  rintro ⟨slot, name⟩ member ⟨slot', _⟩ member' rfl
  rw [own.distinct (nameOf?_of_mem_namedSlots member) (nameOf?_of_mem_namedSlots member')]

theorem nodup_bodyNames (own : (tables.names (some app)).Own) : tables.bodyNames.Nodup :=
  (List.nodup_cons.mp (List.nodup_append.mp (nodup_moduleNames own)).2.1).2

theorem mem_moduleNames_of_mem_bodyNames {name : Text} (member : name ∈ tables.bodyNames) :
    name ∈ tables.moduleNames app :=
  List.mem_append_right _ (List.mem_cons_of_mem _ member)

theorem state_mem_bodyNames {cell : Cell} (member : cell ∈ tables.cells.values) :
    cell.state ∈ tables.bodyNames := by
  refine List.mem_append_left _ (List.mem_append_left _ (List.mem_flatMap.mpr ⟨cell, member, ?_⟩))
  simp

theorem setter_mem_bodyNames {cell : Cell} (member : cell ∈ tables.cells.values) :
    cell.setter ∈ tables.bodyNames := by
  refine List.mem_append_left _ (List.mem_append_left _ (List.mem_flatMap.mpr ⟨cell, member, ?_⟩))
  simp

theorem loader_mem_bodyNames {name : Text} (member : name ∈ tables.loaders.values) :
    name ∈ tables.bodyNames :=
  List.mem_append_left _ (List.mem_append_right _ member)

theorem derived_mem_bodyNames {name : Text} (member : name ∈ tables.derived.values) :
    name ∈ tables.bodyNames :=
  List.mem_append_right _ member

theorem mem_taken_of_mem_moduleNames (own : (tables.names (some app)).Own) {name : Text}
    (member : name ∈ tables.moduleNames app) : name ∈ tables.scope.names := by
  rw [← map_snd_namedSlots] at member
  obtain ⟨⟨slot, _⟩, inside, rfl⟩ := List.mem_map.mp member
  exact own.taken (nameOf?_of_mem_namedSlots inside)

end Tables

/-- At the end of a run every name has its own slot. -/
theorem PageRun.own {document : Document} {pageId : Text} {catalog : Catalog} {editor : Bool}
    (run : PageRun document pageId catalog editor) (keyed : document.Keyed) :
    (run.loaded.names (some run.env.appName)).Own :=
  run.renders_all.takesNames.own ((run.completed keyed).collects.takesNames.own run.isStarted.own)

/-- If a page compiles, the names that its module declares are distinct, and each of them is an
    identifier that is not reserved. -/
theorem compilePage_names_distinct {document : Document} {pageId : Text} {config : RenderConfig}
    {catalog : Catalog} {text : Text} (keyed : document.Keyed)
    (compiled : (compilePage document pageId config catalog).result = .ok text) :
    ∃ run : PageRun document pageId catalog config.editor, text = run.text config.pretty ∧
      (run.loaded.moduleNames run.env.appName).Nodup ∧
      ∀ name ∈ run.loaded.moduleNames run.env.appName,
        Identifier.IsValid name ∧ Identifier.isReserved name = false := by
  obtain ⟨run, isText⟩ := exists_pageRun compiled
  have own := run.own keyed
  refine ⟨run, isText, Tables.nodup_moduleNames own, ?_⟩
  intro name member
  exact own.proper name (Tables.mem_taken_of_mem_moduleNames own member)

theorem compilePage_names_distinct_form :
    ∃ run : PageRun Form.document "page" Catalog.builtin true,
      (compilePage Form.document "page" ⟨true, false⟩ Catalog.builtin).result =
        .ok (run.text false) ∧
      (run.loaded.moduleNames run.env.appName).Nodup := by
  obtain ⟨text, compiled⟩ := Form.exists_compiled
  obtain ⟨run, rfl, distinct, _⟩ := compilePage_names_distinct (by decide) compiled
  exact ⟨run, compiled, distinct⟩

end PageCompiler
