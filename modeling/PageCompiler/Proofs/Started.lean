/-
  The start of a compile.

  It never fails. The environment is made of what is given, whatever the names; the tables hold the
  imports that every module needs and the name of its function, and nothing is collected yet.
-/
import PageCompiler.Proofs.Collection.Move
import PageCompiler.Proofs.Rendering

namespace PageCompiler.Environment

open Compile

/-- The state in which a compile starts. -/
structure Started (env : Environment) (tables : Tables) : Prop where
  snapshot_eq : env.snapshot = env.document.snapshot
  /-- The imports come first, the name of the function follows. -/
  named : ∃ middle, Renders .empty middle ∧ env.appName = freshName middle.scope.names "App" ∧
    tables = { middle with scope := ⟨middle.scope.names ++ [env.appName]⟩ }
  loaders_eq : tables.loaders = .empty
  unfrozen : tables.imports.frozen = false
  react : tables.imports.localName? reactModule ImportTable.defaultSymbol = some env.reactName
  runtime : env.editor = true →
    tables.imports.localName? runtimeModule ImportTable.wholeSymbol = some env.runtimeName

/-- The names that every module takes: of the library, of the runtime and of its function. -/
def startNames (editor : Bool) : Compile (Text × Text × Text) := do
  let react ← addImport reactModule ImportTable.defaultSymbol (some "React")
  let runtime ←
    if editor then
      addImport runtimeModule ImportTable.wholeSymbol (some "__studioRuntime")
    else pure Code.undefinedText
  let app ← allocate "App"
  return (react, runtime, app)

theorem start_eq (document : Document) (catalog : Catalog) (editor : Bool) (page : Node) :
    start document catalog editor page =
      match (startNames editor).run .empty with
      | .ok (react, runtime, app) tables =>
          .ok (⟨document, page, catalog, editor, document.snapshot, react, runtime, app⟩, tables)
      | .error failure _ => .error failure :=
  rfl

/-- What is true of the names and of the tables at the start. -/
def NamesTaken (editor : Bool) (names : Text × Text × Text) (tables : Tables) : Prop :=
  ∃ middle, Renders .empty middle ∧ names.2.2 = freshName middle.scope.names "App" ∧
    tables = { middle with scope := ⟨middle.scope.names ++ [names.2.2]⟩ } ∧
    middle.loaders = .empty ∧ middle.imports.frozen = false ∧
    middle.imports.localName? reactModule ImportTable.defaultSymbol = some names.1 ∧
    (editor = true →
      middle.imports.localName? runtimeModule ImportTable.wholeSymbol = some names.2.1)

theorem ends_startNames (editor : Bool) :
    (startNames editor).Ends .empty (NamesTaken editor) fun _ => False := by
  have fresh : Tables.empty.imports.localName? reactModule ImportTable.defaultSymbol = none := rfl
  rw [startNames, ends_bind, ends_addImport_of_absent rfl fresh (by decide)]
  intro react isReact
  have first := RenderMove.enter fresh isReact
  have found : (Tables.empty.imports.enter reactModule ImportTable.defaultSymbol react).localName?
      reactModule ImportTable.defaultSymbol = some react := by
    rw [ImportTable.localName?_enter, if_pos ⟨rfl, rfl⟩]
  cases editor with
  | false => exact ⟨_, .single first, rfl, rfl, rfl, rfl, found, fun never => nomatch never⟩
  | true =>
      have absent : (Tables.empty.imports.enter reactModule ImportTable.defaultSymbol
          react).localName? runtimeModule ImportTable.wholeSymbol = none := by
        rw [ImportTable.localName?_enter, if_neg (by decide)]
        rfl
      simp only [if_true]
      rw [ends_bind, ends_addImport_of_absent rfl absent (by decide)]
      intro runtime isRuntime
      have second := RenderMove.enter absent isRuntime
      refine ⟨_, Relation.ReflTransGen.tail (.single first) second, rfl, rfl, rfl, rfl, ?_, ?_⟩
      · exact second.keeps.localNames found
      · intro _
        rw [ImportTable.localName?_enter, if_pos ⟨rfl, rfl⟩]

theorem started_of_start {document : Document} {catalog : Catalog} {editor : Bool} {page : Node}
    {env : Environment} {tables : Tables}
    (start_ok : start document catalog editor page = .ok (env, tables)) : env.Started tables := by
  rw [start_eq] at start_ok
  split at start_ok
  · next react runtime app after ran =>
      obtain ⟨middle, renders, isApp, rfl, noLoaders, unfrozen, isReact, isRuntime⟩ :=
        (ends_startNames editor).of_ok ran
      cases start_ok
      exact ⟨rfl, ⟨middle, renders, isApp, rfl⟩, noLoaders, unfrozen, isReact, isRuntime⟩
  · cases start_ok

/-- What is given is what the environment holds. -/
theorem start_given {document : Document} {catalog : Catalog} {editor : Bool} {page : Node}
    {env : Environment} {tables : Tables}
    (start_ok : start document catalog editor page = .ok (env, tables)) :
    env.document = document ∧ env.page = page ∧ env.catalog = catalog ∧ env.editor = editor := by
  rw [start_eq] at start_ok
  split at start_ok
  · cases start_ok
    exact ⟨rfl, rfl, rfl, rfl⟩
  · cases start_ok

theorem consistent_of_start {document : Document} {catalog : Catalog} {editor : Bool} {page : Node}
    {env : Environment} {tables : Tables} (keyed : document.Keyed) (member : page ∈ document.values)
    (start_ok : start document catalog editor page = .ok (env, tables)) : env.Consistent := by
  obtain ⟨rfl, rfl, rfl, rfl⟩ := start_given start_ok
  exact ⟨keyed, (started_of_start start_ok).snapshot_eq, member⟩

/-- The names do not depend on the document. -/
theorem start_tables_eq {document document' : Document} {catalog : Catalog} {editor : Bool}
    {page page' : Node} {env env' : Environment} {tables tables' : Tables}
    (start_ok : start document catalog editor page = .ok (env, tables))
    (start_ok' : start document' catalog editor page' = .ok (env', tables')) :
    tables' = tables := by
  rw [start_eq] at start_ok start_ok'
  split at start_ok
  · next ran =>
      rw [ran] at start_ok'
      cases start_ok
      cases start_ok'
      rfl
  · cases start_ok

theorem exists_start (document : Document) (catalog : Catalog) (editor : Bool) (page : Node) :
    ∃ env tables, start document catalog editor page = .ok (env, tables) := by
  obtain ⟨names, tables, ran⟩ := (ends_startNames editor).exists_ok fun _ failed => failed
  rw [start_eq, ran]
  exact ⟨_, _, rfl⟩

namespace Started

variable {env : Environment} {tables : Tables} (started : env.Started tables)
include started

/-- Nothing is collected yet. -/
theorem sameCollected : Tables.empty.SameCollected tables := by
  obtain ⟨middle, renders, _, rfl⟩ := started.named
  obtain ⟨cells, derived, dependencies, accessors⟩ := renders.sameCollected
  exact ⟨cells, derived, dependencies, accessors⟩

theorem justified : env.Justified tables := by
  obtain ⟨cells, derived, dependencies, accessors⟩ := started.sameCollected
  refine ⟨?_, ?_, ?_, ?_⟩
  · intro key cell found
    rw [cells] at found
    cases found
  · intro id identifier found
    rw [derived] at found
    cases found
  · intro id dependencyId member
    rw [dependencies] at member
    cases member
  · intro reference code found
    rw [accessors] at found
    cases found

end Started

/-- Whether the page can be collected from the start of a compile, and the check holds afterwards. -/
def collectsSuch (document : Document) (catalog : Catalog) (editor : Bool) (page : Node)
    (check : Environment → Tables → Bool) : Bool :=
  match start document catalog editor page with
  | .ok (env, started) =>
      match (Collection.collectPage env).run started with
      | .ok _ collected => check env collected
      | .error _ _ => false
  | .error _ => false

theorem exists_collected {document : Document} {catalog : Catalog} {editor : Bool} {page : Node}
    {check : Environment → Tables → Bool}
    (checked : collectsSuch document catalog editor page check = true) :
    ∃ env started collected, start document catalog editor page = .ok (env, started) ∧
      (Collection.collectPage env).run started = .ok () collected ∧ check env collected = true := by
  unfold collectsSuch at checked
  split at checked
  · next env started start_ok =>
      split at checked
      · next collected ran => exact ⟨env, started, collected, start_ok, ran, checked⟩
      · cases checked
  · cases checked

end PageCompiler.Environment

namespace PageCompiler.Form

def page : Node := ⟨"page", "page", .empty, none, none, none, .page "Form"⟩

def placed (id component index : Text) (props : List (Text × Option PropValue)) : Node :=
  ⟨id, id, .ofList props, some "page", none, some index, .element component⟩

/-- Shows the derived value. -/
def label : Node :=
  placed "label" "Typography" "a" [
    ("value", some (.binding "total.sum")), ("variant", some (.const (.str "h1")))]

def field : Node := placed "field" "TextField" "b" []

/-- Shows the rows of a query. -/
def grid : Node := placed "grid" "DataGrid" "c" [("dataQuery", some (.const (.str "orders")))]

/-- Computed from the text of the field. -/
def total : Node :=
  ⟨"total", "total", .ofList [("base", some (.binding "field.value"))], none, none, none,
    .derived (.ofList [("base", "string")])⟩

/-- A small page on which every kind of name occurs. -/
def document : Document :=
  .ofList [("page", page), ("label", label), ("field", field), ("grid", grid), ("total", total)]

theorem reference_eq {node : Node} {reference : Text} (member : node ∈ document.values)
    (refers : node.Refers reference) : reference = "total.sum" ∨ reference = "field.value" := by
  obtain ⟨value, references, inProps, read, inside⟩ := refers
  have props : document.values.flatMap (fun node => node.props.values) =
      [some (.binding "total.sum"), some (.const (.str "h1")), some (.const (.str "orders")),
        some (.binding "field.value")] := rfl
  have inAll : some value ∈ document.values.flatMap fun node => node.props.values :=
    List.mem_flatMap.mpr ⟨node, member, inProps⟩
  rw [props] at inAll
  simp only [List.mem_cons, Option.some.injEq, List.not_mem_nil, or_false] at inAll
  rcases inAll with rfl | rfl | rfl | rfl
  · cases read
    exact .inl (List.mem_singleton.mp inside)
  · cases read
    cases inside
  · cases read
    cases inside
  · cases read
    exact .inr (List.mem_singleton.mp inside)

end PageCompiler.Form
