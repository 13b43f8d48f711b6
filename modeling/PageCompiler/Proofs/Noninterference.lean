/-
  A page does not depend on nodes that have nothing to do with it.

  A node is put into the document that is not below the page and that no reference names which a
  compile of the page meets. Collection then runs as before (`agrees_collectPage`). Rendering sees the
  document only through the children of the nodes below the page, and the declarations see it only
  through the ids of derived nodes that were collected. So the whole outcome stays: the text or the
  failure, and the warnings.
-/
import PageCompiler.Proofs.BodyLines
import PageCompiler.Proofs.Collection.Agreement

namespace PageCompiler

open Compile

theorem foldlM_congr {m : Type → Type} [Monad m] [LawfulMonad m] {α β : Type} {items : List α}
    {step step' : β → α → m β} (same : ∀ value, ∀ item ∈ items, step' value item = step value item)
    (start : β) : items.foldlM step' start = items.foldlM step start := by
  induction items generalizing start with
  | nil => rfl
  | cons item rest ih =>
      rw [List.foldlM_cons, List.foldlM_cons, same start item List.mem_cons_self]
      refine bind_congr fun value => ih ?_ value
      exact fun value other member => same value other (.tail _ member)

namespace Markup

variable {env : Environment} {larger : Document} {node top : Node} {fuel fuel' : Nat}
  {render render' : Node → Compile Code}

theorem slotCode_congr {children : List Node}
    (same : ∀ child ∈ children, render' child = render child) :
    slotCode render' children = slotCode render children := by
  match children with
  | [] => rfl
  | [child] => rw [slotCode, slotCode, same child List.mem_cons_self]
  | first :: second :: rest => rw [slotCode, slotCode, mapM_congr same] <;> simp

theorem renderSlots_within (consistent : env.Consistent)
    (inserts : env.document.Inserts node larger) (apart : ¬ larger.snapshot.Below top node)
    (same : ∀ child ∈ env.snapshot.childList top, render' child = render child) :
    renderSlots (env.within larger) render' top = renderSlots env render top := by
  have children : (env.within larger).snapshot.children top = env.snapshot.children top := by
    rw [consistent.snapshot_eq]
    exact inserts.children_eq fun member => apart (.child member)
  rw [renderSlots, renderSlots, children]
  refine congrArg (· >>= _) (foldlM_congr ?_ _)
  intro props entry member
  rw [slotCode_congr]
  intro child inSlot
  exact same child (List.mem_flatMap.mpr ⟨entry, member, inSlot⟩)

/-- How deep rendering may go does not matter, if a walk down to that depth ends. -/
theorem renderWithin_within (consistent : env.Consistent)
    (inserts : env.document.Inserts node larger) (apart : ¬ larger.snapshot.Below top node)
    {nodes nodes' : List Node} (walked : env.snapshot.descendantsWithin fuel top = some nodes)
    (walked' : env.snapshot.descendantsWithin fuel' top = some nodes') :
    renderWithin (env.within larger) fuel' top = renderWithin env fuel top := by
  induction fuel generalizing fuel' top nodes nodes' with
  | zero => cases walked
  | succ fuel ih =>
      cases fuel' with
      | zero => cases walked'
      | succ fuel' =>
          have slots : renderSlots (env.within larger)
              (fun child => renderWithin (env.within larger) fuel' child) top =
              renderSlots env (fun child => renderWithin env fuel child) top := by
            refine renderSlots_within consistent inserts apart fun child member => ?_
            obtain ⟨lower, walkedChild⟩ := Snapshot.exists_walk_of_mem walked member
            obtain ⟨lower', walkedChild'⟩ := Snapshot.exists_walk_of_mem walked' member
            refine ih (fun below => apart ?_) walkedChild walkedChild'
            rw [consistent.snapshot_eq, ← inserts.childList_eq apart] at member
            exact (Snapshot.Below.child member).trans below
          rw [renderWithin, renderWithin, slots]
          rfl

theorem renderRoot_within (consistent : env.Consistent)
    (inserts : env.document.Inserts node larger) (apart : ¬ larger.snapshot.Below env.page node)
    {nodes : List Node} (walked : env.snapshot.descendants? env.page = some nodes) :
    renderRoot (env.within larger) = renderRoot env := by
  have walked' : env.snapshot.descendantsWithin larger.snapshot.depthBound env.page = some nodes := by
    rw [← walked, consistent.snapshot_eq, ← inserts.descendantsWithin_eq apart]
    exact inserts.descendants?_eq consistent.keyed consistent.page_mem apart
  have rendered : renderNode (env.within larger) env.page = renderNode env env.page :=
    renderWithin_within consistent inserts apart walked walked'
  rw [renderRoot, renderRoot, ← rendered]
  rfl

end Markup

namespace Declarations

variable {env : Environment} {larger : Document} {node : Node} {tables : Tables} {id : Text}

/-- The ids of derived values, and of those that they depend on, are ids of the document. -/
structure KnownIds (document : Document) (tables : Tables) : Prop where
  derived : ∀ id ∈ tables.derived.keys, id ∈ document.keys
  dependencies : ∀ id, ∀ next ∈ DerivedOrder.successors tables.dependencies id, next ∈ document.keys

theorem knownIds_of_justified (consistent : env.Consistent) (justified : env.Justified tables) :
    KnownIds env.document tables where
  derived id member := by
    obtain ⟨identifier, found⟩ := Table.mem_keys_iff.mp member
    obtain ⟨reference, target, needs, _, rfl⟩ := justified.derived found
    exact Table.mem_keys_iff.mpr ⟨target, consistent.get?_target needs.named⟩
  dependencies id next member := by
    obtain ⟨_, reference, target, _, _, _, _, named, _, rfl⟩ := justified.dependencies member
    exact Table.mem_keys_iff.mpr ⟨target, consistent.get?_target named⟩

theorem KnownIds.of_sameCollected {document : Document} {after : Tables}
    (known : KnownIds document tables) (same : tables.SameCollected after) :
    KnownIds document after := by
  constructor
  · rw [same.derived]
    exact known.derived
  · rw [same.dependencies]
    exact known.dependencies

theorem KnownIds.allIds {document : Document} (known : KnownIds document tables) :
    DerivedOrder.AllIds (· ∈ document.keys)
      (DerivedOrder.order tables.derived.keys tables.dependencies) :=
  DerivedOrder.allIds_order (fun id _ => known.dependencies id) known.derived

theorem node_within (inserts : env.document.Inserts node larger) (known : id ∈ env.document.keys) :
    (env.within larger).document.node id = env.document.node id := by
  obtain ⟨stored, found⟩ := Table.mem_keys_iff.mp known
  exact inserts.node_of_ne (inserts.ne_of_get? found)

theorem derivedOrder_within (inserts : env.document.Inserts node larger)
    (known : KnownIds env.document tables) :
    derivedOrder (env.within larger) tables = derivedOrder env tables := by
  have all := known.allIds
  rw [derivedOrder, derivedOrder]
  cases ordered : DerivedOrder.order tables.derived.keys tables.dependencies with
  | ok ids => rfl
  | error cycle =>
      rw [ordered] at all
      have names : (cycle.mapM fun id => ((env.within larger).document.node id).map (·.name)) =
          cycle.mapM fun id => (env.document.node id).map (·.name) :=
        mapM_congr fun id member => by rw [node_within inserts (all id member)]
      simp only [names]

theorem derivedLine_within (inserts : env.document.Inserts node larger)
    (known : id ∈ env.document.keys) : derivedLine (env.within larger) id = derivedLine env id := by
  rw [derivedLine, derivedLine, node_within inserts known]
  rfl

theorem run_derivedLines_within (inserts : env.document.Inserts node larger)
    (known : KnownIds env.document tables) :
    (derivedLines (env.within larger)).run tables = (derivedLines env).run tables := by
  change (ofExcept (derivedOrder (env.within larger) tables) >>= fun ids =>
      ids.mapM (derivedLine (env.within larger))).run tables =
    (ofExcept (derivedOrder env tables) >>= fun ids => ids.mapM (derivedLine env)).run tables
  rw [derivedOrder_within inserts known]
  cases ordered : derivedOrder env tables with
  | error failure => rfl
  | ok ids =>
      have all := known.allIds
      rw [order_of_derivedOrder ordered] at all
      change (ids.mapM (derivedLine (env.within larger))).run tables =
        (ids.mapM (derivedLine env)).run tables
      rw [mapM_congr fun id member => derivedLine_within inserts (all id member)]

end Declarations

namespace Compile

variable {α β : Type} {env : Environment} {larger : Document} {node : Node} {before tables : Tables}

theorem run_bind_congr {step step' : Compile α} {next next' : α → Compile β}
    (first : step'.run before = step.run before)
    (then_ : ∀ value middle, step.run before = .ok value middle →
      (next' value).run middle = (next value).run middle) :
    (step' >>= next').run before = (step >>= next).run before := by
  rw [run_bind, run_bind, first]
  cases ran : step.run before with
  | ok value middle => exact then_ value middle ran
  | error failure after => rfl

/-- The whole run of a page's compile stays the same. -/
theorem run_pageModule_within (consistent : env.Consistent) (started : env.Started tables)
    (inserts : env.document.Inserts node larger) (apart : ¬ larger.snapshot.Below env.page node)
    (placed : ∀ other, env.snapshot.Below env.page other → other.Avoids node.name)
    (collected : ((Collection.collectPage env).final tables).Avoids env.document node.name) :
    (pageModule (env.within larger)).run tables = (pageModule env).run tables := by
  have nothing : tables.derived.keys ⊆ env.document.keys := by
    rw [started.sameCollected.derived]
    exact List.nil_subset _
  refine run_bind_congr
    (Collection.agrees_collectPage consistent inserts apart placed nothing collected) ?_
  intro _ after ran
  have known := Declarations.knownIds_of_justified consistent
    ((started.completed consistent ran).collects.justified started.justified)
  have rendered : Markup.renderRoot (env.within larger) = Markup.renderRoot env := by
    cases walked : env.snapshot.descendants? env.page with
    | none =>
        rw [Collection.collectPage, walked] at ran
        cases ran
    | some nodes => exact Markup.renderRoot_within consistent inserts apart walked
  refine run_bind_congr (by rw [rendered]) ?_
  intro root middle ran
  have same := Renders.sameCollected ((Markup.renders_renderRoot env after).of_ok ran)
  refine run_bind_congr rfl ?_
  rintro _ _ ⟨⟩
  exact run_bind_congr (Declarations.run_derivedLines_within inserts (known.of_sameCollected same))
    fun _ _ _ => rfl

end Compile

/-- The node is a derived node that is collected for the page, up to a failure if there is one. -/
def CollectedFor (document : Document) (catalog : Catalog) (editor : Bool) (page node : Node) : Prop :=
  ∃ env tables, Environment.start document catalog editor page = .ok (env, tables) ∧
    document.get? node.id = some node ∧
    node.id ∈ ((Collection.collectPage env).final tables).derived.keys

theorem start_within {document larger : Document} {catalog : Catalog} {editor : Bool} {page : Node}
    {env : Environment} {tables : Tables}
    (start_ok : Environment.start document catalog editor page = .ok (env, tables)) :
    Environment.start larger catalog editor page = .ok (env.within larger, tables) := by
  rw [Environment.start_eq] at start_ok ⊢
  split at start_ok
  · cases start_ok
    rfl
  · cases start_ok

/-- The outcome of a run that compiles a page. -/
def outcomeOf (pretty : Bool) : EStateM.Result Failure Tables Text → Outcome
  | .ok code tables => ⟨.ok (if pretty then Layout.format code else code), tables.warnings⟩
  | .error failure tables => ⟨.error failure, tables.warnings⟩

theorem compilePage_of_found {document : Document} {pageId : Text} {page : Node}
    {config : RenderConfig} {catalog : Catalog} {env : Environment} {tables : Tables}
    (found : document.get? pageId = some page)
    (start_ok : Environment.start document catalog config.editor page = .ok (env, tables)) :
    compilePage document pageId config catalog =
      match page.requirePage with
      | .ok _ => outcomeOf config.pretty ((pageModule env).run tables)
      | .error failure => ⟨.error failure, []⟩ := by
  have opened : (document.node pageId >>= fun node => node.requirePage >>= fun page =>
      Environment.start document catalog config.editor page) =
        page.requirePage.map fun _ => (env, tables) := by
    rw [Document.node, found]
    change (page.requirePage >>= _) = _
    rw [Node.requirePage]
    split
    · exact start_ok
    · rfl
  rw [compilePage, opened]
  cases page.requirePage with
  | ok _ => cases ran : (pageModule env).run tables <;> simp [Except.map, ran, outcomeOf]
  | error failure => rfl

/-- A page is compiled alike, with or without a node that is not below it and whose name is the head of
    no reference of a node below it or of a derived node that is collected for it. -/
theorem compilePage_insert {document larger : Document} {pageId : Text} {page node : Node}
    {config : RenderConfig} {catalog : Catalog} (keyed : document.Keyed)
    (inserts : document.Inserts node larger) (found : document.get? pageId = some page)
    (apart : ¬ larger.snapshot.Below page node)
    (placed : ∀ other, document.snapshot.Below page other → other.Avoids node.name)
    (collected : ∀ other, CollectedFor document catalog config.editor page other →
      other.Avoids node.name) :
    compilePage larger pageId config catalog = compilePage document pageId config catalog := by
  obtain ⟨env, tables, start_ok⟩ := Environment.exists_start document catalog config.editor page
  have found' : larger.get? pageId = some page := by
    rw [inserts.get?_of_ne (inserts.ne_of_get? found), found]
  have consistent := Environment.consistent_of_start keyed
    (Table.mem_values_iff.mpr ⟨pageId, found⟩) start_ok
  have avoids : ((Collection.collectPage env).final tables).Avoids document node.name := by
    intro id member other stored
    have isId := keyed.id_eq stored
    subst isId
    exact collected other ⟨env, tables, start_ok, stored, member⟩
  obtain ⟨isDocument, isPage, _⟩ := Environment.start_given start_ok
  rw [compilePage_of_found found' (start_within start_ok), compilePage_of_found found start_ok]
  rw [← isDocument] at inserts avoids placed
  rw [← isPage] at apart placed
  rw [run_pageModule_within consistent (Environment.started_of_start start_ok) inserts apart ?_ avoids]
  rw [consistent.snapshot_eq]
  exact placed

namespace Form

/-- Another page, which has the name of an element and refers to a derived node. -/
def otherPage : Node :=
  ⟨"other", "label", .ofList [("children", some (.binding "total.sum"))], none, none, none, .page []⟩

/-- The form after the other page. -/
def extended : Document :=
  .ofList [("other", otherPage), ("page", page), ("label", label), ("field", field), ("grid", grid),
    ("total", total)]

theorem inserts : document.Inserts otherPage extended := ⟨[], document.entries, rfl, rfl⟩

theorem avoids {node : Node} (member : node ∈ document.values) : node.Avoids otherPage.name := by
  intro reference refers
  rcases reference_eq member refers with rfl | rfl <;> decide

end Form

theorem compilePage_insert_form : ∃ text,
    (compilePage Form.extended "page" ⟨true, false⟩ Catalog.builtin).result = .ok text ∧
      (compilePage Form.document "page" ⟨true, false⟩ Catalog.builtin).result = .ok text := by
  have found : Form.document.get? "page" = some Form.page := rfl
  have same : compilePage Form.extended "page" ⟨true, false⟩ Catalog.builtin =
      compilePage Form.document "page" ⟨true, false⟩ Catalog.builtin := by
    refine compilePage_insert (by decide) Form.inserts found ?_ ?_ ?_
    · exact fun below => below.parentId_ne_none rfl
    · exact fun _ below => Form.avoids below.mem_nodes
    · rintro other ⟨_, _, _, stored, _⟩
      exact Form.avoids (Table.mem_values_iff.mpr ⟨_, stored⟩)
  obtain ⟨text, compiled⟩ := Form.exists_compiled
  exact ⟨text, by rw [same, compiled], compiled⟩

end PageCompiler
