/-
  Compiled modules are well bracketed.

  All parts of a module are balanced: the header, the lines of its body and the page itself. So the whole
  text is, and layout can scan it line by line. Two things are asked of the document, because these texts
  come into the module as they are: direct bindings match the grammar of references, and slots are named
  without quotes and brackets. All other texts can hold anything.
-/
import PageCompiler.Proofs.Brackets.Accessors
import PageCompiler.Proofs.Brackets.LineScan
import PageCompiler.Proofs.LayoutLexemes
import PageCompiler.Proofs.Suggestions

namespace PageCompiler

open Layout

namespace ImportTable

variable {table : ImportTable} {source : Text} {symbols : Table Text} {clauses : List Text}

theorem balanced_declaration (each : ∀ clause ∈ clauses, Balanced clause) :
    Balanced (declaration clauses source) := by
  have listed : Balanced (List.intercalate ", " clauses) :=
    .intercalate (Unmarked.balanced (by decide)) each
  exact ((((Path.fixed "import " rfl).hold listed).write " from " rfl).hold
    (Json.balanced_stringLiteral source)).write ";" rfl

theorem balanced_moduleLines
    (plain : ∀ symbol name, symbols.get? symbol = some name → Unmarked symbol ∧ Neutral name) :
    ∀ line ∈ moduleLines source symbols, Balanced line := by
  have isDefault : ∀ clause ∈ (symbols.get? defaultSymbol).toList, Balanced clause :=
    fun clause member => (plain _ clause (Option.mem_toList.mp member)).2.balanced
  have isWhole : ∀ clause ∈ (symbols.get? wholeSymbol).toList.map fun (name : Text) => "* as " ++ name,
      Balanced clause := by
    intro clause member
    obtain ⟨name, found, rfl⟩ := List.mem_map.mp member
    exact (Path.fixed "* as " rfl).hold (plain _ name (Option.mem_toList.mp found)).2.balanced
  have namedTexts : Balanced (List.intercalate ", " ((namedSymbols symbols).map namedText)) := by
    refine .intercalate (Unmarked.balanced (by decide)) fun piece member => ?_
    obtain ⟨entry, inside, rfl⟩ := List.mem_map.mp member
    obtain ⟨symbol, name⟩ :=
      plain entry.1 entry.2 (Table.mem_entries_iff.mp (List.mem_of_mem_filter inside))
    unfold namedText
    split
    · exact symbol.balanced
    · exact (Path.write symbol.balanced " as " rfl).hold name.balanced
  have braced : Path 0 0 _ := ((Path.fixed "\x7b " rfl).hold namedTexts).write " \x7d" rfl
  unfold moduleLines
  dsimp only
  split
  · refine List.forall_mem_singleton.mpr
      (balanced_declaration (List.forall_mem_append.mpr ⟨isDefault, ?_⟩))
    split
    · exact fun _ member => nomatch member
    · exact List.forall_mem_singleton.mpr braced
  · refine List.forall_mem_cons.mpr
      ⟨balanced_declaration (List.forall_mem_append.mpr ⟨isDefault, isWhole⟩), ?_⟩
    split
    · exact fun _ member => nomatch member
    · exact List.forall_mem_singleton.mpr (balanced_declaration (List.forall_mem_singleton.mpr braced))

/-- The import header is balanced if what is imported has names without quotes and brackets. -/
theorem balanced_render {header : Text}
    (plain : ∀ source symbol name, table.localName? source symbol = some name →
      Unmarked symbol ∧ Neutral name)
    (rendered : table.render = .ok header) : Balanced header := by
  unfold render at rendered
  split at rendered
  · cases rendered
    refine .intercalate (Unmarked.balanced (by decide)) fun line member => ?_
    obtain ⟨⟨source, symbols⟩, inModules, inLines⟩ := List.mem_flatMap.mp member
    refine balanced_moduleLines (fun symbol name found => plain source symbol name ?_) line inLines
    rw [localName?, Table.mem_entries_iff.mp inModules, Option.bind_some, found]
  · cases rendered

end ImportTable

/-- A line of a written text. -/
theorem Layout.Path.line {low middle high : Nat} {line : Text} {others : List Text}
    (path : Path low middle line) (later : Path middle high (written others)) :
    Path low high (written (line :: others)) :=
  (path.write "\n" rfl).append later

/-- A module is balanced if its parts are. -/
theorem balanced_moduleText {header appName root : Text} {body : List Text}
    (isHeader : Balanced header) (app : Neutral appName) (isBody : ∀ line ∈ body, Balanced line)
    (isRoot : Balanced root) : Balanced (moduleText header appName body root) := by
  have parts : moduleText header appName body root =
      written [header, "", "export default function " ++ appName ++ "() \x7b"] ++
        written (body.map (indentUnit ++ ·)) ++
        written [indentUnit ++ "return (", indentUnit ++ indentUnit ++ root, indentUnit ++ ");",
          "\x7d"] := by
    rw [← written_append, ← written_append, ← intercalate_append_feed (by simp)]
    rfl
  have head : Path 0 1 _ :=
    ((Path.fixed "export default function " rfl).hold app.balanced).write "() \x7b" rfl
  have opening : Path 0 1 (written [header, "", "export default function " ++ appName ++ "() \x7b"]) :=
    .line isHeader (.line (.stay 0) (.line head (.stay 1)))
  have indented : Balanced (written (body.map (indentUnit ++ ·))) := by
    refine .flatMap fun line member => ?_
    obtain ⟨source, inBody, rfl⟩ := List.mem_map.mp member
    exact ((Path.fixed indentUnit rfl).hold (isBody source inBody)).write "\n" rfl
  have page : Path 2 2 (indentUnit ++ indentUnit ++ root) :=
    ((Path.fixed indentUnit rfl).write indentUnit rfl).hold isRoot
  have closing : Path 1 0 (written [indentUnit ++ "return (", indentUnit ++ indentUnit ++ root,
      indentUnit ++ ");", "\x7d"]) :=
    .line (.fixed _ rfl) (.line page (.line (.fixed _ rfl) (.line (.fixed _ rfl) (.stay 0))))
  rw [parts]
  exact (opening.hold indented).append closing

namespace Declarations

variable {env : Environment}

theorem balanced_stateLine {cell : Cell} (react : Neutral env.reactName) (state : Neutral cell.state)
    (setter : Neutral cell.setter) : Balanced (stateLine env cell) := by
  have call : Path 0 1 _ := ((((((Path.fixed "const [" rfl).hold state.balanced).write ", " rfl).hold
    setter.balanced).write "] = " rfl).hold react.balanced).write ".useState(" rfl
  unfold stateLine
  split
  · exact (call.hold (Json.balanced_literal _)).write ");" rfl
  · exact (call.hold (Unmarked.balanced (by decide))).write ");" rfl

theorem balanced_loaderLine {hook : Text} {entry : Text × Text} (isHook : Neutral hook)
    (isVariable : Neutral entry.2) : Balanced (loaderLine hook entry) :=
  ((((((Path.fixed "const " rfl).hold isVariable.balanced).write " = " rfl).hold isHook.balanced).write
    "(" rfl).hold (Json.balanced_stringLiteral entry.1)).write ");" rfl

theorem balanced_derivedText {identifier getter : Text} {props : Props} (react : Neutral env.reactName)
    (isIdentifier : Neutral identifier) (isGetter : Neutral getter) (balanced : props.Balanced) :
    Balanced (derivedText env identifier getter props) := by
  have reads : Balanced (List.intercalate ", "
      (props.values.map fun code => Code.asExpression (some code))) := by
    refine .intercalate (Unmarked.balanced (by decide)) fun piece member => ?_
    obtain ⟨code, inside, rfl⟩ := List.mem_map.mp member
    obtain ⟨name, found⟩ := Table.mem_values_iff.mp inside
    refine Code.balanced_asExpression ?_
    rintro _ ⟨⟩
    exact balanced name code found
  have call : Path 0 2 _ := (((((((Path.fixed "const " rfl).hold isIdentifier.balanced).write " = "
    rfl).hold react.balanced).write ".useMemo(() => " rfl).hold isGetter.balanced).write "(" rfl)
  have passed := (call.hold (Props.balanced_objectLiteral balanced)).write "), [" rfl
  exact (passed.hold reads).write "]);" rfl

end Declarations

theorem Node.unmarked_slot {node : Node} (plain : ∀ slot ∈ node.parentProp, Unmarked slot) :
    Unmarked node.slot := by
  unfold slot
  split
  · exact (by decide : Unmarked contentSlot)
  · exact (by decide : Unmarked contentSlot)
  · next name _ isSlot => exact plain name isSlot

namespace PageRun

open Declarations

variable {document : Document} {pageId : Text} {catalog : Catalog} {editor : Bool}
  (run : PageRun document pageId catalog editor)

theorem neutral_reactName : Neutral run.env.reactName :=
  run.isStarted.own.neutral (.imported _ _) run.isStarted.react

theorem neutral_runtimeName (isEditor : run.env.editor = true) : Neutral run.env.runtimeName :=
  run.isStarted.own.neutral (.imported _ _) (run.isStarted.runtime isEditor)

theorem neutral_appName : Neutral run.env.appName := run.isStarted.own.neutral .app rfl

/-- What the module imports has names without quotes and brackets. -/
theorem unmarked_symbol (keyed : document.Keyed) (bracketed : catalog.Bracketed)
    {source symbol name : Text} (found : run.frozenImports.localName? source symbol = some name) :
    Unmarked symbol := by
  rw [← (Environment.start_given run.start_ok).2.2.1] at bracketed
  obtain ⟨suggestion, requested, _⟩ := @(run.sourced keyed).slots (.imported source symbol) name found
  cases requested with
  | library => decide
  | runtime _ => decide
  | reference suggests => cases suggests
  | imported asks =>
      cases asks with
      | script rendered asks =>
          exact (bracketed _ (Environment.mem_catalog_of_component? rendered)).symbols _ _ _ _ asks
      | getter _ _ => decide
      | hook => decide

variable (keyed : document.Keyed) (binds : ∀ node ∈ document.values, node.BindsReferences)
include keyed binds

theorem neutral_loaded : run.loaded.Neutral (some run.env.appName) :=
  (run.neutral_collected keyed binds).renders run.renders_all

theorem balanced_header (bracketed : catalog.Bracketed) : Balanced run.header := by
  refine ImportTable.balanced_render (fun source symbol name found => ?_) run.header_ok
  refine ⟨run.unmarked_symbol keyed bracketed found, ?_⟩
  exact (run.neutral_loaded keyed binds).name (.imported source symbol) found

theorem balanced_stateLines : ∀ line ∈ stateLines run.env run.rendered, Balanced line := by
  intro line member
  obtain ⟨cell, inCells, rfl⟩ := List.mem_map.mp member
  rw [← run.cells_eq] at inCells
  obtain ⟨key, found⟩ := Table.mem_values_iff.mp inCells
  have neutral := run.neutral_loaded keyed binds
  refine balanced_stateLine run.neutral_reactName (neutral.name (.state key) ?_)
    (neutral.name (.setter key) ?_)
  · exact congrArg (Option.map Cell.state) found
  · exact congrArg (Option.map Cell.setter) found

theorem balanced_loaderLines : ∀ line ∈ run.loaderLines, Balanced line := by
  obtain ⟨hook, isLines, imported⟩ := run_loaderLines run.load_ok
  intro line member
  have neutral := run.neutral_loaded keyed binds
  have isHook := neutral.name (.imported queryModule queryHook) (imported (List.ne_nil_of_mem member))
  rw [isLines] at member
  obtain ⟨entry, inLoaders, rfl⟩ := List.mem_map.mp member
  exact balanced_loaderLine isHook (neutral.name (.loader entry.1) (Table.mem_entries_iff.mp inLoaders))

theorem balanced_derivedLines (bracketed : catalog.Bracketed) :
    ∀ line ∈ run.derivedLines, Balanced line := by
  intro line member
  obtain ⟨id, _, node, props, getter, identifier, _, _, ⟨tables, after, now, resolved, _⟩, imported,
    named, rfl⟩ := exists_of_mem_forall₂ (run.derivedLines_made keyed).flip member
  rw [← (Environment.start_given run.start_ok).2.2.1] at bracketed
  have neutral := run.neutral_loaded keyed binds
  refine balanced_derivedText run.neutral_reactName (neutral.name (.derived id) named)
    (neutral.name (.imported _ _) imported) (Props.Balanced.erase ?_ _)
  exact ResolvedProps.balanced_resolve bracketed Props.writable_empty.balanced
    ((run.neutral_collected keyed binds).renders now.1) resolved

/-- The text of the module is balanced. -/
theorem balanced_text (bracketed : catalog.Bracketed)
    (slots : ∀ node ∈ document.values, ∀ slot ∈ node.parentProp, Unmarked slot) :
    Balanced (run.text false) := by
  have rendered : Balanced run.root := by
    have given := Environment.start_given run.start_ok
    rw [← given.2.2.1] at bracketed
    refine Markup.balanced_renderRoot bracketed
      (fun isEditor => (run.neutral_runtimeName isEditor).unmarked) (fun node member => ?_)
      (run.neutral_collected keyed binds) run.render_ok
    rw [run.isStarted.snapshot_eq, given.1] at member
    exact Node.unmarked_slot (slots node member)
  refine balanced_moduleText (run.balanced_header keyed binds bracketed) run.neutral_appName ?_ rendered
  refine List.forall_mem_append.mpr ⟨List.forall_mem_append.mpr ⟨?_, ?_⟩, ?_⟩
  · exact run.balanced_stateLines keyed binds
  · exact run.balanced_loaderLines keyed binds
  · exact run.balanced_derivedLines keyed binds bracketed

end PageRun

/-- If a page compiles with the components that are always at hand, its module is well bracketed: scanned
    line by line its depth is never below zero, no line leaves a literal open except a template, and at
    the end everything is closed. Direct bindings have to match the grammar of references, and slots have
    to be named without quotes and brackets; ids, names, constants, queries, templates and titles can be
    any texts. -/
theorem compilePage_wellBracketed {document : Document} {pageId text : Text} {editor : Bool}
    (keyed : document.Keyed)
    (binds : ∀ node ∈ document.values, ∀ reference,
      some (.binding reference) ∈ node.props.values → Template.isReference reference = true)
    (slots : ∀ node ∈ document.values, ∀ slot ∈ node.parentProp, Unmarked slot)
    (compiled : (compilePage document pageId ⟨editor, false⟩ Catalog.builtin).result = .ok text) :
    WellBracketed text := by
  obtain ⟨run, rfl⟩ := exists_pageRun compiled
  exact (run.balanced_text keyed binds bracketed_builtin slots).wellBracketed (moduleText_ended _ _ _ _)

/-- The form has bindings of both kinds of nodes. -/
theorem compilePage_wellBracketed_form : ∃ text,
    (compilePage Form.document "page" ⟨true, false⟩ Catalog.builtin).result = .ok text ∧
      WellBracketed text := by
  obtain ⟨text, compiled⟩ := Form.exists_compiled
  refine ⟨text, compiled, compilePage_wellBracketed (by decide) ?_ (by decide) compiled⟩
  intro node member reference bound
  have refers : node.Refers reference := ⟨_, _, bound, rfl, List.mem_singleton_self _⟩
  rcases Form.reference_eq member refers with rfl | rfl <;> decide +kernel

end PageCompiler
