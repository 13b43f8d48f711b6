/-
  A compile that has succeeded, phase by phase.

  A `PageRun` holds the tables between the phases and the parts of the module that each phase gives.
  Every compile that succeeds is such a run and its text is the text of the run. What the phases do
  to the tables is said once here: collection makes its moves, all later phases render.
-/
import PageCompiler.Compilation.PageModule
import PageCompiler.Proofs.Collection.Closure

namespace PageCompiler

open Compile

/-- The phases of a compile that has succeeded. -/
structure PageRun (document : Document) (pageId : Text) (catalog : Catalog) (editor : Bool) where
  page : Node
  env : Environment
  started : Tables
  collected : Tables
  rendered : Tables
  declared : Tables
  loaded : Tables
  root : Text
  /-- The ids of the derived nodes in the order of their lines. -/
  order : List Text
  derivedLines : List Text
  loaderLines : List Text
  header : Text
  page_get : document.get? pageId = some page
  start_ok : Environment.start document catalog editor page = .ok (env, started)
  collect_ok : (Collection.collectPage env).run started = .ok () collected
  render_ok : (Markup.renderRoot env).run collected = .ok root rendered
  order_ok : Declarations.derivedOrder env rendered = .ok order
  declare_ok : (order.mapM (Declarations.derivedLine env)).run rendered = .ok derivedLines declared
  load_ok : Declarations.loaderLines.run declared = .ok loaderLines loaded
  header_ok : loaded.imports.freeze.render = .ok header

namespace PageRun

variable {document : Document} {pageId : Text} {catalog : Catalog} {editor : Bool}

/-- The lines of the module's body before its return. -/
def body (run : PageRun document pageId catalog editor) : List Text :=
  Declarations.stateLines run.env run.rendered ++ run.loaderLines ++ run.derivedLines

/-- The import table that the header is written from. -/
def frozenImports (run : PageRun document pageId catalog editor) : ImportTable :=
  run.loaded.imports.freeze

/-- The text of the module. -/
def text (run : PageRun document pageId catalog editor) (pretty : Bool) : Text :=
  let code := moduleText run.header run.env.appName run.body run.root
  if pretty then Layout.format code else code

end PageRun

theorem start_of_opened {document : Document} {pageId : Text} {catalog : Catalog} {editor : Bool}
    {opened : Environment × Tables}
    (open_ok : (do
      let node ← document.node pageId
      let page ← node.requirePage
      Environment.start document catalog editor page) = .ok opened) :
    ∃ page, document.get? pageId = some page ∧
      Environment.start document catalog editor page = .ok opened := by
  unfold Document.node at open_ok
  cases found : document.get? pageId with
  | none =>
      rw [found] at open_ok
      cases open_ok
  | some page =>
      rw [found] at open_ok
      change (page.requirePage >>= _) = _ at open_ok
      unfold Node.requirePage at open_ok
      split at open_ok
      · exact ⟨page, rfl, open_ok⟩
      · cases open_ok

/-- A compile that succeeds is a run. -/
theorem exists_pageRun {document : Document} {pageId : Text} {config : RenderConfig}
    {catalog : Catalog} {text : Text}
    (compiled : (compilePage document pageId config catalog).result = .ok text) :
    ∃ run : PageRun document pageId catalog config.editor, text = run.text config.pretty := by
  simp only [compilePage] at compiled
  split at compiled
  · cases compiled
  · next env started open_ok =>
      obtain ⟨page, page_get, start_ok⟩ := start_of_opened open_ok
      split at compiled
      · next code final ran =>
          cases compiled
          unfold pageModule Declarations.derivedLines at ran
          obtain ⟨_, collected, collect_ok, ran⟩ := run_bind_eq_ok.mp ran
          obtain ⟨root, rendered, render_ok, ran⟩ := run_bind_eq_ok.mp ran
          obtain ⟨derivedLines, declared, declared_ok, ran⟩ :=
            run_bind_eq_ok.mp (run_get_bind_eq_ok.mp ran)
          obtain ⟨order, order_ok, declare_ok⟩ :=
            run_ofExcept_bind_eq_ok.mp (run_get_bind_eq_ok.mp declared_ok)
          obtain ⟨loaderLines, loaded, load_ok, ran⟩ := run_bind_eq_ok.mp ran
          obtain ⟨_, frozen, freeze_ok, ran⟩ := run_bind_eq_ok.mp ran
          cases freeze_ok
          obtain ⟨header, _, header_ok, ran⟩ := run_bind_eq_ok.mp ran
          cases ran
          unfold importHeader at header_ok
          rw [run_get_bind_eq_ok] at header_ok
          split at header_ok
          · next rendered_ok =>
              cases header_ok
              exact ⟨⟨page, env, started, collected, rendered, declared, loaded, root, order,
                derivedLines, loaderLines, header, page_get, start_ok, collect_ok, render_ok,
                order_ok, declare_ok, load_ok, rendered_ok⟩, rfl⟩
          · cases header_ok
      · cases compiled

namespace PageRun

variable {document : Document} {pageId : Text} {catalog : Catalog} {editor : Bool}
  (run : PageRun document pageId catalog editor)

theorem isStarted : run.env.Started run.started := Environment.started_of_start run.start_ok

theorem consistent (keyed : document.Keyed) : run.env.Consistent :=
  Environment.consistent_of_start keyed (Table.mem_values_iff.mpr ⟨pageId, run.page_get⟩)
    run.start_ok

theorem completed (keyed : document.Keyed) : run.env.Completed run.started run.collected :=
  run.isStarted.completed (run.consistent keyed) run.collect_ok

theorem renders_root : Renders run.collected run.rendered :=
  (Markup.renders_renderRoot run.env run.collected).of_ok run.render_ok

theorem renders_derived : Renders run.rendered run.declared :=
  (Follows.mapM (Declarations.renders_derivedLine run.env) run.rendered).of_ok run.declare_ok

theorem renders_loaders : Renders run.declared run.loaded :=
  (Declarations.renders_loaderLines run.env run.declared).of_ok run.load_ok

theorem renders_all : Renders run.collected run.loaded :=
  (run.renders_root.trans run.renders_derived).trans run.renders_loaders

/-- What a check finds at a fixed start is so for every run from there. -/
theorem check_started {page : Node} {check : Environment × Tables → Bool}
    (found : document.get? pageId = some page)
    (checked : (Environment.start document catalog editor page).toOption.any check = true) :
    check (run.env, run.started) = true := by
  have isPage : run.page = page := Option.some.inj (run.page_get.symm.trans found)
  rw [← isPage, run.start_ok] at checked
  exact checked

end PageRun

theorem Outcome.exists_text {outcome : Outcome} {check : Text → Bool}
    (checked : outcome.result.toOption.any check = true) :
    ∃ text, outcome.result = .ok text ∧ check text = true := by
  cases compiled : outcome.result with
  | ok text =>
      rw [compiled] at checked
      exact ⟨text, rfl, checked⟩
  | error failure =>
      rw [compiled] at checked
      cases checked

/-- The form compiles. -/
theorem Form.exists_compiled :
    ∃ text, (compilePage document "page" ⟨true, false⟩ Catalog.builtin).result = .ok text := by
  have succeeded :
      (compilePage document "page" ⟨true, false⟩ Catalog.builtin).result.isOk = true := by
    decide +kernel
  cases compiled : (compilePage document "page" ⟨true, false⟩ Catalog.builtin).result with
  | ok text => exact ⟨text, rfl⟩
  | error failure =>
      rw [compiled] at succeeded
      cases succeeded

end PageCompiler
