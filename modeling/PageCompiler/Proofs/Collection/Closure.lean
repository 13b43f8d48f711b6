/-
  Collection gives exactly what the page needs.

  It succeeds if and only if every reached node conforms, and then each table holds what the
  references of reached nodes ask for and nothing else (`CollectedExactly`). No order of visiting
  appears in this: what a run puts into the tables was asked for (`Justified`), and by induction on
  how a node is reached all its references are handled.
-/
import PageCompiler.Proofs.Collection.Coverage
import PageCompiler.Proofs.Started

namespace PageCompiler

open Collection DerivedOrder

namespace Environment

variable {env : Environment} {tables after : Tables} {node : Node}

/-- What the cell of a prop starts from: the constant that the document gives for the prop, or else the
    declared default, if there is one. -/
inductive StartsFrom (element : Node) (prop : Text) (argument : Argument) : Option Json → Prop
  | constant {value : Json} : element.props.get? prop = some (some (.const value)) →
      StartsFrom element prop argument (some value)
  | declared : (∀ value, element.props.get? prop ≠ some (some (.const value))) →
      StartsFrom element prop argument argument.defaultValue

theorem startsFrom_iff {element : Node} {prop : Text} {argument : Argument} {initial : Option Json} :
    StartsFrom element prop argument initial ↔
      initial = (authoredConstant? element prop).or argument.defaultValue := by
  constructor
  · rintro (given | notGiven)
    · rw [authoredConstant?, given]
      rfl
    · unfold authoredConstant?
      split
      · next value given => exact absurd given (notGiven value)
      · rfl
  · rintro rfl
    unfold authoredConstant?
    split
    · next value given => exact .constant given
    · next notGiven => exact .declared notGiven

/-- The tables hold exactly what the page needs. -/
structure CollectedExactly (env : Environment) (tables : Tables) : Prop where
  /-- The derived values are those of the derived nodes that a reached node refers to. -/
  derived : ∀ id, id ∈ tables.derived.keys ↔
    ∃ reference target, env.Needs reference target ∧ target.isDerived = true ∧ target.id = id
  /-- No prop of an element has two cells. -/
  distinct : (tables.cells.values.map fun cell => (cell.nodeId, cell.prop)).Nodup
  /-- The props with a cell are those that a reached node refers to. -/
  cells : ∀ id prop,
    (∃ cell ∈ tables.cells.values, cell.nodeId = id ∧ cell.prop = prop) ↔
      ∃ reference element, env.Needs reference element ∧ element.isElement = true ∧
        element.id = id ∧ (Reference.path reference).head? = some prop
  /-- Each cell stands under its node and prop. -/
  keys : ∀ key cell, tables.cells.get? key = some cell → key = cellKey cell.nodeId cell.prop
  /-- A cell starts from the constant of the document, or else from the declared default. -/
  initial : ∀ cell ∈ tables.cells.values, ∃ element component argument,
    env.document.get? cell.nodeId = some element ∧ env.component? element = some component ∧
      component.arguments.get? cell.prop = some (some argument) ∧
      StartsFrom element cell.prop argument cell.initial
  /-- The references with code are those that name an element or a derived node. -/
  accessors : ∀ reference, reference ∈ tables.accessors.keys ↔
    ∃ target, env.Needs reference target ∧ target.isPage = false
  /-- The code of a reference reads what it names. -/
  reads : ∀ reference code, tables.accessors.get? reference = some code →
    env.Reads tables reference code
  /-- A derived node depends on the derived nodes that its props name. -/
  dependencies : ∀ id dependencyId, dependencyId ∈ successors tables.dependencies id ↔
    env.DependsOn id dependencyId

theorem Reads.isPage_eq_false {reference code : Text} (reads : env.Reads tables reference code)
    (named : env.target? reference = some node) : node.isPage = false := by
  cases reads with
  | element named' isElement _ =>
      cases named.symm.trans named'
      exact Node.isPage_eq_false_of_isElement isElement
  | derived named' isDerived _ =>
      cases named.symm.trans named'
      exact Node.isPage_eq_false_of_isDerived isDerived

theorem Covered.handled {reference : Text} (covered : env.Covered after node)
    (refers : node.Refers reference) : env.Handled after node reference := by
  obtain ⟨value, references, member, read, inside⟩ := refers
  obtain ⟨references', read', handled⟩ := covered (some value) member value rfl
  rw [read] at read'
  cases read'
  exact handled reference inside

/-- After a run from tables without derived values, all references of reached nodes are handled. -/
theorem Grows.covered_of_reached (consistent : env.Consistent)
    (unknown : ∀ id, tables.derived.get? id = none) (grown : env.Grows tables after)
    (below : ∀ node, env.snapshot.Below env.page node → env.Covered after node)
    (reached : env.Reached node) : env.Covered after node := by
  induction reached with
  | placed down => exact below _ down
  | @named owner target reference _ refers named isDerived ih =>
      have notPage := Node.isPage_eq_false_of_isDerived isDerived
      obtain ⟨code, reads, _⟩ := (ih.handled refers).hasAccessor named notPage
      obtain ⟨identifier, found, _⟩ := reads.identifier named isDerived
      exact grown.covered (unknown target.id) found (consistent.get?_target named)

theorem conforms_of_covered (covered : ∀ node, env.Reached node → env.Covered after node) :
    env.Conforms ∧ env.NamesProps := by
  have accepted : ∀ reference element, env.Needs reference element → element.isElement = true →
      ∃ argument, (Reference.path reference).head? ≠ some [] ∧
        env.Binds element (Reference.path reference) argument := by
    rintro reference element ⟨node, reached, refers, named⟩ isElement
    obtain ⟨argument, ok⟩ := ((covered node reached).handled refers).accepted named isElement
    exact ⟨argument, controlledArgument_eq_ok_iff.mp ok⟩
  refine ⟨⟨?_, ?_⟩, ?_⟩
  · intro node reached text format member
    obtain ⟨references, read, _⟩ := covered node reached _ member _ rfl
    cases parsed : Template.parse text with
    | ok parts => exact ⟨parts, rfl⟩
    | error error => simp [PropValue.references, parsed] at read
  · intro reference element needs isElement
    obtain ⟨argument, _, binds⟩ := accepted reference element needs isElement
    exact ⟨argument, binds⟩
  · intro reference element needs isElement
    obtain ⟨_, filled, _⟩ := accepted reference element needs isElement
    exact filled

theorem Justified.cell_key (justified : env.Justified tables) {key : Text} {cell : Cell}
    (found : tables.cells.get? key = some cell) : key = cellKey cell.nodeId cell.prop := by
  obtain ⟨_, _, _, _, _, _, _, _, sameKey, _⟩ := justified.cells found
  exact sameKey

theorem Justified.cells_distinct (justified : env.Justified tables) :
    (tables.cells.values.map fun cell => (cell.nodeId, cell.prop)).Nodup := by
  have keys : tables.cells.values.map (fun cell => cellKey cell.nodeId cell.prop) =
      tables.cells.keys := by
    simp only [Table.values, Table.keys, List.map_map]
    refine List.map_congr_left ?_
    rintro ⟨key, cell⟩ member
    exact (justified.cell_key (Table.mem_entries_iff.mp member)).symm
  have distinct : (tables.cells.values.map fun cell => cellKey cell.nodeId cell.prop).Nodup :=
    keys ▸ tables.cells.distinct
  refine List.Nodup.of_map (fun slot : Text × Text => cellKey slot.1 slot.2) ?_
  simpa [List.map_map, Function.comp_def] using distinct

/-- A cell stands for the first segment of a reference to its element. -/
theorem Justified.cell_prop (justified : env.Justified tables) {cell : Cell}
    (member : cell ∈ tables.cells.values) :
    ∃ reference element argument, env.Needs reference element ∧ element.isElement = true ∧
      element.id = cell.nodeId ∧ (Reference.path reference).head? = some cell.prop ∧
      env.Binds element (Reference.path reference) argument ∧
      cell.initial = (authoredConstant? element cell.prop).or argument.defaultValue := by
  obtain ⟨key, found⟩ := Table.mem_values_iff.mp member
  obtain ⟨reference, element, argument, needs, isElement, isProp, accepted, isId, _, initial⟩ :=
    justified.cells found
  rw [isProp] at accepted
  obtain ⟨_, component, prop, rendered, first, declared, controlled⟩ :=
    controlledArgument_eq_ok_iff.mp accepted
  have sameProp : cell.prop = prop := by
    rw [isProp, List.headD_eq_head?_getD, first, Option.getD_some]
  exact ⟨reference, element, argument, needs, isElement, isId.symm, sameProp ▸ first,
    ⟨component, prop, rendered, first, declared, controlled⟩, initial⟩

theorem Justified.initial (consistent : env.Consistent) (justified : env.Justified tables)
    {cell : Cell} (member : cell ∈ tables.cells.values) :
    ∃ element component argument, env.document.get? cell.nodeId = some element ∧
      env.component? element = some component ∧
      component.arguments.get? cell.prop = some (some argument) ∧
      StartsFrom element cell.prop argument cell.initial := by
  obtain ⟨reference, element, argument, needs, _, isId, first, binds, initial⟩ :=
    justified.cell_prop member
  obtain ⟨component, prop, rendered, first', declared, _⟩ := binds
  cases first.symm.trans first'
  exact ⟨element, component, argument, isId ▸ consistent.get?_target needs.named, rendered,
    declared, startsFrom_iff.mpr initial⟩

/-- Tables that hold only what was asked for, and in which every reference is handled. -/
theorem collectedExactly (consistent : env.Consistent) (justified : env.Justified tables)
    (covered : ∀ node, env.Reached node → env.Covered tables node) :
    env.CollectedExactly tables := by
  obtain ⟨conforms, _⟩ := conforms_of_covered covered
  -- What stands in the tables is justified; that nothing is missing comes from the references, all
  -- of which are handled.
  have handled : ∀ {reference target}, env.Needs reference target → target.isPage = false →
      env.HasAccessor tables reference := by
    rintro reference target ⟨node, reached, refers, named⟩ notPage
    exact ((covered node reached).handled refers).hasAccessor named notPage
  refine ⟨?_, justified.cells_distinct, ?_, fun _ _ => justified.cell_key,
    fun _ => justified.initial consistent, ?_, fun _ _ found => (justified.accessors found).2, ?_⟩
  · intro id
    rw [Table.mem_keys_iff]
    constructor
    · rintro ⟨identifier, found⟩
      exact justified.derived found
    · rintro ⟨reference, target, needs, isDerived, rfl⟩
      obtain ⟨code, reads, _⟩ := handled needs (Node.isPage_eq_false_of_isDerived isDerived)
      obtain ⟨identifier, found, _⟩ := reads.identifier needs.named isDerived
      exact ⟨identifier, found⟩
  · intro id prop
    constructor
    · rintro ⟨cell, member, rfl, rfl⟩
      obtain ⟨reference, element, _, needs, isElement, isId, first, _⟩ :=
        justified.cell_prop member
      exact ⟨reference, element, needs, isElement, isId, first⟩
    · rintro ⟨reference, element, needs, isElement, rfl, first⟩
      obtain ⟨code, reads, _⟩ := handled needs (Node.isPage_eq_false_of_isElement isElement)
      obtain ⟨cell, found, _⟩ := reads.cell needs.named isElement
      have member : cell ∈ tables.cells.values := Table.mem_values_iff.mpr ⟨_, found⟩
      obtain ⟨other, _, _, _, _, isProp, _, _, sameKey, _⟩ := justified.cells found
      obtain ⟨sameId, sameProp⟩ := cellKey_inj (Reference.dot_not_mem_prop reference)
        (isProp ▸ Reference.dot_not_mem_prop other) sameKey
      refine ⟨cell, member, sameId.symm, ?_⟩
      rw [← sameProp, List.headD_eq_head?_getD, first, Option.getD_some]
  · intro reference
    rw [Table.mem_keys_iff]
    constructor
    · rintro ⟨code, found⟩
      obtain ⟨⟨target, needs⟩, reads⟩ := justified.accessors found
      exact ⟨target, needs, reads.isPage_eq_false needs.named⟩
    · rintro ⟨target, needs, notPage⟩
      obtain ⟨code, _, found⟩ := handled needs notPage
      exact ⟨code, found⟩
  · intro id dependencyId
    constructor
    · exact justified.dependencies
    · rintro ⟨owner, reference, target, reached, ownerDerived, rfl, refers, named, isDerived, rfl⟩
      exact ((covered owner reached).handled refers).depends named isDerived ownerDerived

/-- The state after a collection: moves have led there, and all references are handled. -/
structure Completed (env : Environment) (tables after : Tables) : Prop where
  collects : env.Collects tables after
  covered : ∀ node, env.Reached node → env.Covered after node

theorem Started.ends_collectPage {nodes : List Node} (started : env.Started tables)
    (consistent : env.Consistent) (walked : env.snapshot.descendants? env.page = some nodes) :
    (collectPage env).Ends tables (fun _ after => env.Completed tables after) env.Refuses := by
  have unknown : ∀ id, tables.derived.get? id = none := by
    intro id
    rw [started.sameCollected.derived]
    exact Table.get?_empty id
  refine (Environment.ends_collectPage consistent walked started.justified).imp ?_
    (fun _ failed => failed)
  rintro _ after ⟨grown, below⟩
  exact ⟨grown.collects, fun _ => grown.covered_of_reached consistent unknown below⟩

/-- A collection that ends well has walked down the page. -/
theorem Started.completed (started : env.Started tables) (consistent : env.Consistent)
    (ran : (collectPage env).run tables = .ok () after) : env.Completed tables after := by
  cases walked : env.snapshot.descendants? env.page with
  | none =>
      rw [collectPage, walked] at ran
      cases ran
  | some nodes => exact (started.ends_collectPage consistent walked).of_ok ran

theorem Completed.collectedExactly (completed : env.Completed tables after)
    (started : env.Started tables) (consistent : env.Consistent) : env.CollectedExactly after :=
  Environment.collectedExactly consistent (completed.collects.justified started.justified)
    completed.covered

theorem Started.collectPage_succeeds_iff (started : env.Started tables)
    (consistent : env.Consistent) (noLoop : ¬ env.snapshot.Below env.page env.page) :
    (∃ after, (collectPage env).run tables = .ok () after) ↔ env.Conforms ∧ env.NamesProps := by
  have pageMember : env.page ∈ env.snapshot.nodes := by
    rw [consistent.snapshot_eq]
    exact consistent.page_mem
  obtain ⟨nodes, walked⟩ := Snapshot.exists_descendants consistent.distinctIds pageMember noLoop
  constructor
  · rintro ⟨after, ran⟩
    exact conforms_of_covered (started.completed consistent ran).covered
  · intro conforms
    obtain ⟨_, after, ran⟩ := (started.ends_collectPage consistent walked).exists_ok
      fun _ refuses => refuses.2 conforms
    exact ⟨after, ran⟩

end Environment

/-- Collection at the start of a compile ends well if and only if the templates of reached nodes can
    be read and their references to elements name a bindable prop, and then the tables hold exactly
    what the page needs. -/
theorem collectPage_closure {document : Document} {catalog : Catalog} {editor : Bool} {page : Node}
    {env : Environment} {tables : Tables} (keyed : document.Keyed)
    (member : page ∈ document.values) (noLoop : ¬ document.snapshot.Below page page)
    (start_ok : Environment.start document catalog editor page = .ok (env, tables)) :
    ((∃ after, (collectPage env).run tables = .ok () after) ↔ env.Conforms ∧ env.NamesProps) ∧
      ∀ after, (collectPage env).run tables = .ok () after → env.CollectedExactly after := by
  have started := Environment.started_of_start start_ok
  have consistent := Environment.consistent_of_start keyed member start_ok
  obtain ⟨rfl, rfl, rfl, rfl⟩ := Environment.start_given start_ok
  rw [← consistent.snapshot_eq] at noLoop
  refine ⟨started.collectPage_succeeds_iff consistent noLoop, ?_⟩
  intro after ran
  exact (started.completed consistent ran).collectedExactly started consistent

/-- The form can be collected. -/
theorem Form.exists_collected : ∃ env tables after,
    Environment.start document Catalog.builtin false page = .ok (env, tables) ∧
      (collectPage env).run tables = .ok () after := by
  have checked : Environment.collectsSuch document Catalog.builtin false page
      (fun _ _ => true) = true := by decide +kernel
  obtain ⟨env, tables, after, start_ok, ran, _⟩ := Environment.exists_collected checked
  exact ⟨env, tables, after, start_ok, ran⟩

theorem Form.noLoop : ¬ document.snapshot.Below page page :=
  fun below => below.parentId_ne_none rfl

theorem collectPage_closure_form : ∃ env tables after,
    Environment.start Form.document Catalog.builtin false Form.page = .ok (env, tables) ∧
      (collectPage env).run tables = .ok () after ∧ env.CollectedExactly after := by
  obtain ⟨env, tables, after, start_ok, ran⟩ := Form.exists_collected
  have closure := collectPage_closure (by decide) List.mem_cons_self Form.noLoop start_ok
  exact ⟨env, tables, after, start_ok, ran, closure.2 after ran⟩

namespace Nameless

/-- A component with one argument, whose name is empty. -/
def component : Component :=
  .declare [] [([], { Component.plain "string" with changeProp := some "onChange" })]
    fun _ => .done []

def page : Node := ⟨"page", "page", .empty, none, none, none, .page []⟩

/-- An element with a prop that is bound to the argument. -/
def field : Node :=
  ⟨"field", "field", .ofList [("label", some (.binding "field."))], some "page", none, none,
    .element "Input"⟩

def document : Document := .ofList [("page", page), ("field", field)]

def catalog : Catalog := .ofList [("Input", component)]

theorem prop_eq {node : Node} {value : PropValue} (member : node ∈ document.values)
    (inProps : some value ∈ node.props.values) : node = field ∧ value = .binding "field." := by
  have nodes : document.values = [page, field] := rfl
  rw [nodes, List.mem_cons, List.mem_singleton] at member
  rcases member with rfl | rfl
  · cases inProps
  · have props : field.props.values = [some (.binding "field.")] := rfl
    rw [props, List.mem_singleton] at inProps
    cases inProps
    exact ⟨rfl, rfl⟩

theorem conforms {env : Environment} (consistent : env.Consistent)
    (isDocument : env.document = document) (isCatalog : env.catalog = catalog) : env.Conforms := by
  have known : ∀ {node}, env.Reached node → node ∈ document.values := by
    intro node reached
    rw [← isDocument]
    exact consistent.mem_values_of_reached reached
  refine ⟨?_, ?_⟩
  · intro node reached text format inProps
    cases (prop_eq (known reached) inProps).2
  · rintro reference element ⟨node, reached, ⟨value, _, inProps, read, inside⟩, named⟩ _
    obtain ⟨rfl, rfl⟩ := prop_eq (known reached) inProps
    cases read
    rw [List.mem_singleton] at inside
    have target : env.target? "field." = some field := by
      rw [Environment.target?, consistent.snapshot_eq, isDocument]
      rfl
    rw [inside, target] at named
    cases named
    refine ⟨_, component, [], ?_, by rw [inside]; rfl, rfl, rfl⟩
    rw [Environment.component?, isCatalog]
    rfl

end Nameless

/-- The conditions do not suffice if an argument's name is empty: a reference cannot name it. -/
theorem conforms_insufficient : ¬ ∀ (document : Document) (catalog : Catalog) (editor : Bool)
    (page : Node) (env : Environment) (tables : Tables), document.Keyed → page ∈ document.values →
      ¬ document.snapshot.Below page page →
      Environment.start document catalog editor page = .ok (env, tables) →
      ((∃ after, (collectPage env).run tables = .ok () after) ↔ env.Conforms) := by
  intro claimed
  obtain ⟨env, tables, start_ok⟩ :=
    Environment.exists_start Nameless.document Nameless.catalog false Nameless.page
  have keyed : Nameless.document.Keyed := by decide
  have member : Nameless.page ∈ Nameless.document.values := List.mem_cons_self
  have noLoop : ¬ Nameless.document.snapshot.Below Nameless.page Nameless.page :=
    fun below => below.parentId_ne_none rfl
  have consistent := Environment.consistent_of_start keyed member start_ok
  obtain ⟨isDocument, isPage, isCatalog, -⟩ := Environment.start_given start_ok
  have succeeds := (claimed _ _ _ _ env tables keyed member noLoop start_ok).mpr
    (Nameless.conforms consistent isDocument isCatalog)
  rw [← isDocument, ← isPage, ← consistent.snapshot_eq] at noLoop
  obtain ⟨_, names⟩ := ((Environment.started_of_start start_ok).collectPage_succeeds_iff consistent
    noLoop).mp succeeds
  have placed : env.snapshot.Below env.page Nameless.field := by
    rw [consistent.snapshot_eq, isDocument, isPage]
    exact .child List.mem_cons_self
  refine names "field." Nameless.field ⟨Nameless.field, .placed placed, ?_, ?_⟩ rfl rfl
  · exact ⟨_, _, List.mem_cons_self, rfl, List.mem_cons_self⟩
  · rw [Environment.target?, consistent.snapshot_eq, isDocument]
    rfl

end PageCompiler
