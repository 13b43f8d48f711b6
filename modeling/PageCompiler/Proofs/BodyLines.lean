/-
  What the lines of a module's body are.

  A line of state, of a data loader or of a derived value begins with the names it declares, taken
  from the tables, and goes on with the aliases it needs, taken from the imports. Read off the text of
  the body, the declared names are those of all cells, loaders and derived values, each once.
-/
import PageCompiler.Proofs.DeclaredNames
import PageCompiler.Proofs.DerivedOrder
import PageCompiler.Proofs.ModuleNames
import PageCompiler.Proofs.WrittenProps

namespace PageCompiler

open Compile DerivedOrder

namespace Declarations

/-- The line of a data loader, given as query and variable. -/
def loaderLine (hook : Text) (entry : Text × Text) : Text :=
  "const " ++ entry.2 ++ " = " ++ hook ++ "(" ++ Json.stringLiteral entry.1 ++ ");"

/-- The line of a derived value. -/
def derivedText (env : Environment) (identifier getter : Text) (props : Props) : Text :=
  let reads := props.values.map fun code => Code.asExpression (some code)
  "const " ++ identifier ++ " = " ++ env.reactName ++ ".useMemo(() => " ++ getter ++ "("
    ++ Props.objectLiteral props ++ "), [" ++ List.intercalate ", " reads ++ "]);"

variable {env : Environment} {before after : Tables} {line id : Text} {lines : List Text}

theorem run_loaderLines (ran : loaderLines.run before = .ok lines after) :
    ∃ hook, lines = after.loaders.entries.map (loaderLine hook) ∧
      (lines ≠ [] → after.imports.localName? queryModule queryHook = some hook) := by
  unfold loaderLines at ran
  rw [run_get_bind_eq_ok] at ran
  split at ran
  · next none =>
      cases ran
      rw [List.isEmpty_iff] at none
      exact ⟨[], by rw [none]; rfl, fun some => absurd rfl some⟩
  · obtain ⟨hook, middle, imported, ran⟩ := run_bind_eq_ok.mp ran
    cases ran
    exact ⟨hook, rfl, fun _ => ((ends_addImport_localName _ _ _).of_ok imported).2⟩

theorem run_derivedLine (ran : (derivedLine env id).run before = .ok line after) :
    ∃ node props middle getter identifier, env.document.get? id = some node ∧
      node.isDerived = true ∧ (ResolvedProps.resolve env node .empty).run before = .ok props middle ∧
      Renders middle after ∧
      after.imports.localName? (derivedModule node.id) ImportTable.defaultSymbol = some getter ∧
      after.derived.get? id = some identifier ∧
      line = derivedText env identifier getter (props.erase Code.spreadProp) := by
  unfold derivedLine at ran
  obtain ⟨node, known, ran⟩ := run_ofExcept_bind_eq_ok.mp ran
  obtain ⟨props, middle, resolved, ran⟩ := run_bind_eq_ok.mp ran
  obtain ⟨getter, entered, imported, ran⟩ := run_bind_eq_ok.mp ran
  rw [run_get_bind_eq_ok] at ran
  split at ran
  · cases ran
  · next identifier named =>
      cases ran
      obtain ⟨found, isDerived⟩ := node_of_required known
      obtain ⟨moved, entry⟩ := (ends_addImport_localName _ _ _).of_ok imported
      exact ⟨node, props, middle, getter, identifier, found, isDerived, resolved, moved, entry, named,
        rfl⟩

theorem order_of_derivedOrder {tables : Tables} {ids : List Text}
    (ordered : derivedOrder env tables = .ok ids) :
    DerivedOrder.order tables.derived.keys tables.dependencies = .ok ids := by
  unfold derivedOrder at ordered
  split at ordered
  · next ran =>
      cases ordered
      exact ran
  · split at ordered <;> cases ordered

theorem declaredNames_stateLine {cell : Cell} (state : Identifier.IsValid cell.state)
    (setter : Identifier.IsValid cell.setter) :
    declaredNames (stateLine env cell) = [cell.state, cell.setter] := by
  simp only [stateLine, List.append_assoc]
  simpa only [List.append_assoc] using declaredNames_pair state setter _

theorem declaredNames_loaderLine {hook : Text} {entry : Text × Text}
    (valid : Identifier.IsValid entry.2) : declaredNames (loaderLine hook entry) = [entry.2] := by
  simp only [loaderLine, List.append_assoc]
  simpa only [List.append_assoc] using declaredNames_single valid _

theorem declaredNames_derivedText {identifier getter : Text} {props : Props}
    (valid : Identifier.IsValid identifier) :
    declaredNames (derivedText env identifier getter props) = [identifier] := by
  simp only [derivedText, List.append_assoc]
  simpa only [List.append_assoc] using declaredNames_single valid _

end Declarations

namespace PageRun

open Declarations

variable {document : Document} {pageId : Text} {catalog : Catalog} {editor : Bool}
  (run : PageRun document pageId catalog editor)

/-- Tables in which something is rendered or declared: those of a moment after collection. -/
def Moment (tables : Tables) : Prop := Renders run.collected tables ∧ Renders tables run.loaded

/-- The props of a node are resolved after collection, around its child content. -/
def Resolves (node : Node) (seed props : Props) : Prop :=
  ∃ tables after, run.Moment tables ∧
    (ResolvedProps.resolve run.env node seed).run tables = .ok props after ∧ run.Moment after

/-- A line declares the value of a derived node, computed by an imported getter from the resolved
    props of the node. -/
def DerivedLine (id line : Text) : Prop :=
  ∃ node props getter identifier, document.get? id = some node ∧ node.isDerived = true ∧
    run.Resolves node .empty props ∧
    run.frozenImports.localName? (derivedModule id) ImportTable.defaultSymbol = some getter ∧
    run.loaded.derived.get? id = some identifier ∧
    line = derivedText run.env identifier getter (props.erase Code.spreadProp)

theorem derivedLines_made (keyed : document.Keyed) :
    List.Forall₂ run.DerivedLine run.order run.derivedLines := by
  have made := Follows.forall₂_of_mapM (renders_derivedLine run.env) run.declare_ok
  refine List.Forall₂.imp ?_ made
  rintro id line ⟨first, second, reached, ran, left⟩
  obtain ⟨node, props, middle, getter, identifier, found, isDerived, resolved, moved, entry, named,
    isLine⟩ := run_derivedLine ran
  have start : Renders run.collected first := run.renders_root.trans reached
  have resolving : Renders first middle :=
    (ResolvedProps.renders_resolve run.env node .empty first).of_ok resolved
  have later : Renders second run.loaded := left.trans run.renders_loaders
  rw [(Environment.start_given run.start_ok).1] at found
  rw [keyed.id_eq found] at entry
  refine ⟨node, props, getter, identifier, found, isDerived, ⟨first, middle, ?_, resolved, ?_⟩,
    later.keeps.localNames entry, ?_, isLine⟩
  · exact ⟨start, (resolving.trans moved).trans later⟩
  · exact ⟨start.trans resolving, moved.trans later⟩
  · rw [later.sameCollected.derived, named]

/-- The derived nodes are ordered, and each has its line. -/
theorem ordered : Ordered run.collected.dependencies run.order ∧
    run.collected.derived.keys ⊆ run.order := by
  have same := run.renders_root.sameCollected
  have sound := order_sound (order_of_derivedOrder run.order_ok)
  rwa [same.dependencies, same.derived] at sound

theorem order_perm (keyed : document.Keyed) : run.order.Perm run.loaded.derived.keys := by
  obtain ⟨ordered, roots⟩ := run.ordered
  have derived : run.loaded.derived = run.collected.derived :=
    run.renders_all.sameCollected.derived
  refine (List.perm_ext_iff_of_nodup ordered.distinct run.loaded.derived.distinct).mpr ?_
  intro id
  constructor
  -- A line is only written for a node that has its identifier.
  · intro member
    obtain ⟨line, _, _, _, _, identifier, _, _, _, _, named, _⟩ :=
      exists_of_mem_forall₂ (run.derivedLines_made keyed) member
    exact Table.mem_keys_iff.mpr ⟨identifier, named⟩
  · intro member
    rw [← Table.keys, derived] at member
    exact roots member

theorem isValid_of_mem_bodyNames (keyed : document.Keyed) {name : Text}
    (member : name ∈ run.loaded.bodyNames) : Identifier.IsValid name := by
  have own := run.own keyed
  have listed : name ∈ run.loaded.moduleNames run.env.appName :=
    Tables.mem_moduleNames_of_mem_bodyNames member
  exact (own.proper name (Tables.mem_taken_of_mem_moduleNames own listed)).1

theorem cells_eq : run.loaded.cells = run.rendered.cells := by
  have later : Renders run.rendered run.loaded := run.renders_derived.trans run.renders_loaders
  exact later.sameCollected.cells

theorem declaredNames_stateLines (keyed : document.Keyed) :
    (stateLines run.env run.rendered).flatMap declaredNames =
      run.loaded.cells.values.flatMap fun cell => [cell.state, cell.setter] := by
  rw [stateLines, List.flatMap_map, ← run.cells_eq]
  refine List.flatMap_congr ?_
  intro cell member
  exact declaredNames_stateLine
    (run.isValid_of_mem_bodyNames keyed (Tables.state_mem_bodyNames member))
    (run.isValid_of_mem_bodyNames keyed (Tables.setter_mem_bodyNames member))

theorem declaredNames_loaderLines (keyed : document.Keyed) :
    run.loaderLines.flatMap declaredNames = run.loaded.loaders.values := by
  obtain ⟨hook, isLines, _⟩ := run_loaderLines run.load_ok
  rw [isLines, List.flatMap_map, Table.values, ← List.flatMap_pure_eq_map]
  refine List.flatMap_congr ?_
  intro entry member
  exact declaredNames_loaderLine (run.isValid_of_mem_bodyNames keyed
    (Tables.loader_mem_bodyNames (List.mem_map_of_mem member)))

/-- A line of a derived value declares its identifier. -/
theorem declaredNames_of_derivedLine (keyed : document.Keyed) {id line : Text}
    (made : run.DerivedLine id line) :
    ∃ identifier, run.loaded.derived.get? id = some identifier ∧
      declaredNames line = [identifier] := by
  obtain ⟨_, _, _, identifier, _, _, _, _, named, rfl⟩ := made
  refine ⟨identifier, named, declaredNames_derivedText (run.isValid_of_mem_bodyNames keyed ?_)⟩
  exact Tables.derived_mem_bodyNames (Table.mem_values_iff.mpr ⟨id, named⟩)

theorem declaredNames_derivedLines (keyed : document.Keyed) {ids lines : List Text}
    (made : List.Forall₂ run.DerivedLine ids lines) :
    lines.flatMap declaredNames = ids.filterMap run.loaded.derived.get? := by
  induction made with
  | nil => rfl
  | cons first _ ih =>
      obtain ⟨identifier, named, declared⟩ := run.declaredNames_of_derivedLine keyed first
      rw [List.flatMap_cons, List.filterMap_cons, named, declared, ih]
      rfl

/-- The body declares the names of all cells, loaders and derived values. -/
theorem declared_perm (keyed : document.Keyed) :
    (run.body.flatMap declaredNames).Perm run.loaded.bodyNames := by
  rw [body, List.flatMap_append, List.flatMap_append, run.declaredNames_stateLines keyed,
    run.declaredNames_loaderLines keyed,
    run.declaredNames_derivedLines keyed (run.derivedLines_made keyed), Tables.bodyNames,
    ← Table.filterMap_get?_keys run.loaded.derived]
  exact ((run.order_perm keyed).filterMap _).append_left _

/-- A name of the tables is declared by one line of the body. -/
theorem declared_once (keyed : document.Keyed) {name : Text}
    (member : name ∈ run.loaded.bodyNames) :
    run.body.countP (fun line => name ∈ declaredNames line) = 1 := by
  have declared := run.declared_perm keyed
  refine countP_declaredNames ?_ (declared.mem_iff.mpr member)
  exact declared.nodup_iff.mpr (Tables.nodup_bodyNames (run.own keyed))

end PageRun

end PageCompiler
