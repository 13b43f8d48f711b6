/-
  What rendering and declaring can do to the tables, one move at a time.

  They enter imports and data loaders and report warnings. What collection has put into the tables
  stays as it is (`Tables.SameCollected`), and a name that an import or a loader was given stays
  theirs (`RenderMove.keeps`). Every function from a single prop up to a whole page makes such moves
  only.
-/
import PageCompiler.Proofs.Safety
import PageCompiler.Proofs.TableLaws

namespace PageCompiler

namespace ImportTable

/-- The table with one more alias. -/
def enter (table : ImportTable) (source symbol name : Text) : ImportTable :=
  { table with
    modules := table.modules.insert source
      (((table.modules.get? source).getD .empty).insert symbol name) }

theorem localName?_enter (table : ImportTable) (source symbol name otherSource otherSymbol : Text) :
    (table.enter source symbol name).localName? otherSource otherSymbol =
      if otherSource = source ∧ otherSymbol = symbol then some name
      else table.localName? otherSource otherSymbol := by
  unfold localName? enter
  by_cases sameSource : otherSource = source
  · subst sameSource
    simp only [Table.get?_insert_self, Option.bind_some, Table.get?_insert, true_and]
    split
    · rfl
    · cases table.modules.get? otherSource <;> rfl
  · simp [Table.get?_insert_of_ne _ sameSource, sameSource]

/-- A new import goes to the end of its source. -/
theorem symbols_enter {table : ImportTable} {source symbol : Text}
    (absent : table.localName? source symbol = none) (name query : Text) :
    (((table.enter source symbol name).modules.get? query).getD .empty).entries =
      if query = source then
        ((table.modules.get? source).getD .empty).entries ++ [(symbol, name)]
      else ((table.modules.get? query).getD .empty).entries := by
  have noSymbol : ((table.modules.get? source).getD .empty).get? symbol = none := by
    unfold localName? at absent
    cases found : table.modules.get? source with
    | none => rfl
    | some symbols =>
        rw [found] at absent
        exact absent
  unfold enter
  split
  · next same =>
      rw [same, Table.get?_insert_self, Option.getD_some,
        Table.entries_insert_of_absent name noSymbol]
  · next differs => rw [Table.get?_insert_of_ne _ differs]

end ImportTable

/-- One change that rendering makes to the tables. -/
inductive RenderMove (tables : Tables) : Tables → Prop
  | warn (warning : Warning) : RenderMove tables { tables with warnings := tables.warnings ++ [warning] }
  | enter {source symbol suggestion name : Text} :
      tables.imports.localName? source symbol = none →
      name = freshName tables.scope.names suggestion →
      RenderMove tables
        { tables with
          scope := ⟨tables.scope.names ++ [name]⟩
          imports := tables.imports.enter source symbol name }
  | load {query name : Text} :
      tables.loaders.get? query = none → name = freshName tables.scope.names query →
      RenderMove tables
        { tables with
          scope := ⟨tables.scope.names ++ [name]⟩
          loaders := tables.loaders.insert query name }

/-- Any number of moves. -/
abbrev Renders : Tables → Tables → Prop := Relation.ReflTransGen RenderMove

/-- What collection puts into the tables is the same in both. -/
structure Tables.SameCollected (before after : Tables) : Prop where
  cells : after.cells = before.cells
  derived : after.derived = before.derived
  dependencies : after.dependencies = before.dependencies
  accessors : after.accessors = before.accessors

/-- What rendering has entered is still there. -/
structure Tables.Keeps (before after : Tables) : Prop where
  localNames : ∀ {source symbol name}, before.imports.localName? source symbol = some name →
    after.imports.localName? source symbol = some name
  loaders : ∀ {query name}, before.loaders.get? query = some name →
    after.loaders.get? query = some name

variable {before after : Tables}

theorem RenderMove.sameCollected (move : RenderMove before after) : before.SameCollected after := by
  cases move <;> exact ⟨rfl, rfl, rfl, rfl⟩

theorem RenderMove.keeps (move : RenderMove before after) : before.Keeps after := by
  cases move with
  | warn _ => exact ⟨id, id⟩
  | @enter source symbol suggestion name absent _ =>
      refine ⟨?_, id⟩
      intro otherSource otherSymbol other found
      rw [ImportTable.localName?_enter]
      split
      · next same =>
          rw [same.1, same.2, absent] at found
          cases found
      · exact found
  | load absent _ => exact ⟨id, fun found => Table.get?_insert_of_some _ absent found⟩

theorem Renders.sameCollected (moves : Renders before after) : before.SameCollected after := by
  induction moves with
  | refl => exact ⟨rfl, rfl, rfl, rfl⟩
  | tail _ move ih =>
      obtain ⟨cells, derived, dependencies, accessors⟩ := move.sameCollected
      exact ⟨cells.trans ih.cells, derived.trans ih.derived, dependencies.trans ih.dependencies,
        accessors.trans ih.accessors⟩

theorem Renders.keeps (moves : Renders before after) : before.Keeps after := by
  induction moves with
  | refl => exact ⟨id, id⟩
  | tail _ move ih =>
      exact ⟨move.keeps.localNames ∘ ih.localNames, move.keeps.loaders ∘ ih.loaders⟩

/-- Rendering does not freeze the imports. -/
theorem Renders.frozen_eq (moves : Renders before after) :
    after.imports.frozen = before.imports.frozen := by
  induction moves with
  | refl => rfl
  | tail _ move ih =>
      rw [← ih]
      cases move <;> rfl

namespace Compile

theorem ends_addImport {source symbol : Text} {suggestion : Option Text}
    {good : Text → Tables → Prop} {bad : Failure → Prop} :
    (addImport source symbol suggestion).Ends before good bad ↔
      if before.imports.frozen then bad (.imports (.addAfterFreeze source symbol))
      else
        match before.imports.localName? source symbol with
        | some name => good name before
        | none =>
            let name := freshName before.scope.names
              (match suggestion with
                | none | some [] => symbol
                | some text => text)
            good name
              { before with
                imports := before.imports.enter source symbol name
                scope := ⟨before.scope.names ++ [name]⟩ } := by
  rw [addImport, ends_bind, ends_get]
  unfold ImportTable.add
  by_cases frozen : before.imports.frozen = true
  · simp only [frozen, if_true]
    exact Iff.rfl
  · rw [if_neg frozen, if_neg frozen]
    cases before.imports.localName? source symbol <;> exact Iff.rfl

/-- A new import with a suggested name. -/
theorem ends_addImport_of_absent {source symbol suggestion : Text} {good : Text → Tables → Prop}
    {bad : Failure → Prop} (unfrozen : before.imports.frozen = false)
    (absent : before.imports.localName? source symbol = none) (given : suggestion ≠ []) :
    (addImport source symbol (some suggestion)).Ends before good bad ↔
      ∀ name, name = freshName before.scope.names suggestion →
        good name
          { before with
            imports := before.imports.enter source symbol name
            scope := ⟨before.scope.names ++ [name]⟩ } := by
  rw [ends_addImport, unfrozen, absent]
  cases suggestion with
  | nil => exact absurd rfl given
  | cons first rest => simp

/-- An import that is asked for is in the table afterwards, under the name that was given. Only a
    frozen table refuses it. -/
theorem ends_addImport_localName (source symbol : Text) (suggestion : Option Text) :
    (addImport source symbol suggestion).Ends before
      (fun name after => Renders before after ∧ after.imports.localName? source symbol = some name)
      fun _ => before.imports.frozen = true := by
  rw [ends_addImport]
  split
  · next frozen => exact frozen
  · split
    · next known => exact ⟨.refl, known⟩
    · next absent =>
        intro name
        refine ⟨.single (.enter absent rfl), ?_⟩
        rw [ImportTable.localName?_enter]
        simp

theorem ends_useLoader_iff {query : Text} {good : Text → Tables → Prop} {bad : Failure → Prop} :
    (useLoader query).Ends before good bad ↔
      match before.loaders.get? query with
      | some name => good name before
      | none =>
          let name := freshName before.scope.names query
          good name
            { before with
              scope := ⟨before.scope.names ++ [name]⟩
              loaders := before.loaders.insert query name } := by
  rw [useLoader, ends_bind, ends_get]
  cases before.loaders.get? query <;> exact Iff.rfl

theorem ends_useLoader (query : Text) :
    (useLoader query).Ends before
      (fun name after => Renders before after ∧ after.loaders.get? query = some name)
      fun _ => False := by
  rw [ends_useLoader_iff]
  split
  · next known => exact ⟨.refl, known⟩
  · next absent => exact ⟨.single (.load absent rfl), Table.get?_insert_self _ _ _⟩

/-- Resolving props follows the moves, whichever failure it ends in. -/
theorem propRules_renders (start : Tables) : PropRules (Renders start) fun _ => True where
  warn warning _ reached := reached.tail (.warn warning)
  load query _ reached :=
    (ends_useLoader query).imp (fun _ _ done => reached.trans done.1) (fun _ _ => trivial)
  template _ := trivial
  directive _ := trivial
  query _ _ := trivial

/-- So does rendering. -/
theorem renderRules_renders (env : Environment) (start : Tables) :
    RenderRules env (Renders start) fun _ => True where
  toPropRules := propRules_renders start
  enter source symbol suggestion _ _ reached :=
    (ends_addImport_localName source symbol suggestion).imp (fun _ _ done => reached.trans done.1)
      (fun _ _ => trivial)

end Compile

open Compile

namespace ResolvedProps

/-! What resolving reads of the tables was collected. -/

theorem readReference_congr (same : before.SameCollected after) (reference : Text) :
    readReference after reference = readReference before reference := by
  unfold readReference
  rw [same.accessors]

theorem templateCode_congr (same : before.SameCollected after) (text : Text)
    (format : Option Text) : templateCode after text format = templateCode before text format := by
  unfold templateCode
  rw [funext (readReference_congr same)]

theorem addCells_congr (same : before.SameCollected after) (node : Node)
    (component : Component) (seed props : Props) :
    addCells after node component seed props = addCells before node component seed props := by
  unfold addCells Tables.cell?
  rw [same.cells]

theorem renders_addEntry (node : Node) (types : Table Text) (props : Props)
    (entry : Text × Option PropValue) : Follows RenderMove (addEntry node types props entry) :=
  .of_safe fun start => safe_addEntry (propRules_renders start) node types props entry

theorem renders_addAllAuthored (env : Environment) (node : Node) (seed : Props) :
    Follows RenderMove (addAllAuthored env node seed) :=
  .of_safe fun start => safe_addAllAuthored (propRules_renders start) env node seed

theorem renders_resolve (env : Environment) (node : Node) (seed : Props) :
    Follows RenderMove (resolve env node seed) :=
  .of_safe fun start => safe_resolve (propRules_renders start) env node seed

end ResolvedProps

theorem Markup.renders_renderRoot (env : Environment) : Follows RenderMove (renderRoot env) :=
  .of_safe fun start => safe_renderRoot (renderRules_renders env start) fun _ => trivial

namespace Declarations

theorem renders_derivedLine (env : Environment) (id : Text) :
    Follows RenderMove (derivedLine env id) :=
  .of_safe fun start => safe_derivedLine (renderRules_renders env start) (fun _ _ => trivial)
    fun _ _ _ => trivial

theorem renders_loaderLines (env : Environment) : Follows RenderMove loaderLines :=
  .of_safe fun start => safe_loaderLines (renderRules_renders env start)

end Declarations

end PageCompiler
