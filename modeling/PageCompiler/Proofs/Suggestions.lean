/-
  Which texts the names of a module come from.

  A slot takes the first free name for a suggestion, and all suggestions are known: those of every
  module, the names of referenced nodes with their props, queries, and the aliases that imports ask
  for (`Environment.Requests`). A word that ends in no digit can only be the plain identifier of a
  suggestion. So, unless it is reserved, it is declared if and only if some slot was named after a
  suggestion that gives this identifier. The reserved words leave out globals that the generated code
  calls, and `number_captured` is a page on which one of them is declared.
-/
import PageCompiler.Proofs.BodyLines

namespace PageCompiler

open Compile

namespace Names

variable {names : Names} {suggests : NameSlot → Text → Prop} {slot : NameSlot} {suggestion : Text}

/-- The slot took the first name that was free for the suggestion at the time. -/
def TookFor (names : Names) (slot : NameSlot) (suggestion : Text) : Prop :=
  ∃ front, names.nameOf? slot = some (freshName front suggestion) ∧
    front ++ [freshName front suggestion] <+: names.taken

/-- Every name stands for a slot, which took it for a suggestion. -/
structure Sourced (suggests : NameSlot → Text → Prop) (names : Names) : Prop where
  slots : ∀ {slot name}, names.nameOf? slot = some name →
    ∃ suggestion, suggests slot suggestion ∧ names.TookFor slot suggestion
  taken : ∀ name ∈ names.taken, ∃ slot, names.nameOf? slot = some name

theorem tookFor_take (names : Names) (slot : NameSlot) (suggestion : Text) :
    (names.take slot suggestion).TookFor slot suggestion :=
  ⟨names.taken, by rw [nameOf?_take, if_pos rfl], List.prefix_rfl⟩

theorem TookFor.take {other : NameSlot} (took : names.TookFor slot suggestion) (text : Text)
    (differs : slot ≠ other) : (names.take other text).TookFor slot suggestion := by
  obtain ⟨front, isName, isFront⟩ := took
  refine ⟨front, ?_, isFront.trans (List.prefix_append _ _)⟩
  rw [nameOf?_take, if_neg differs, isName]

theorem Sourced.take (sourced : names.Sourced suggests) (suggested : suggests slot suggestion)
    (isOpen : names.nameOf? slot = none) : (names.take slot suggestion).Sourced suggests := by
  have kept : ∀ {other name}, names.nameOf? other = some name → other ≠ slot := by
    rintro other name found rfl
    rw [isOpen] at found
    cases found
  refine ⟨?_, ?_⟩
  · intro other name found
    by_cases same : other = slot
    · subst same
      exact ⟨suggestion, suggested, names.tookFor_take other suggestion⟩
    · rw [nameOf?_take, if_neg same] at found
      obtain ⟨text, isSuggested, took⟩ := sourced.slots found
      exact ⟨text, isSuggested, took.take suggestion same⟩
  · intro name member
    rcases List.mem_append.mp member with old | new
    · obtain ⟨other, found⟩ := sourced.taken name old
      exact ⟨other, by rw [nameOf?_take, if_neg (kept found), found]⟩
    · exact ⟨slot, by rw [nameOf?_take, if_pos rfl, List.mem_singleton.mp new]⟩

/-- A word that is not reserved and ends in no digit is taken if and only if some slot took its name
    for a suggestion with that identifier. -/
theorem Sourced.mem_taken_iff (sourced : names.Sourced suggests) {word : Text}
    (unreserved : Identifier.isReserved word = false) (plain : isNumbered word = false) :
    word ∈ names.taken ↔ ∃ slot suggestion, suggests slot suggestion ∧
      names.TookFor slot suggestion ∧ Identifier.sanitize suggestion = word := by
  constructor
  · intro member
    obtain ⟨slot, found⟩ := sourced.taken word member
    obtain ⟨suggestion, suggested, took⟩ := sourced.slots found
    refine ⟨slot, suggestion, suggested, took, ?_⟩
    obtain ⟨front, isName, _⟩ := took
    cases found.symm.trans isName
    exact sanitize_of_freshName plain
  · rintro ⟨slot, suggestion, _, ⟨front, _, isFront⟩, rfl⟩
    by_cases free : isFreeName front (Identifier.sanitize suggestion) = true
    · rw [freshName_eq_sanitize free] at isFront
      exact isFront.subset (by simp)
    · have inFront : Identifier.sanitize suggestion ∈ front := by
        simpa [isFreeName, unreserved] using free
      exact isFront.subset (List.mem_append_left _ inFront)

end Names

theorem TakesNames.sourced {suggests : NameSlot → Text → Prop} {before after : Names}
    (moves : TakesNames suggests before after) (sourced : before.Sourced suggests) :
    after.Sourced suggests := by
  induction moves with
  | refl => exact sourced
  | tail _ move ih =>
      cases move with
      | take suggested isOpen => exact ih.take suggested isOpen

theorem TakesNames.mono {suggests suggests' : NameSlot → Text → Prop} {before after : Names}
    (moves : TakesNames suggests before after)
    (more : ∀ slot suggestion, suggests slot suggestion → suggests' slot suggestion) :
    TakesNames suggests' before after := by
  induction moves with
  | refl => exact .refl
  | tail _ move ih =>
      cases move with
      | take suggested isOpen => exact ih.tail (.take (more _ _ suggested) isOpen)

/-- What an import wants to be called: what is suggested, or else the symbol. -/
def wantedName (symbol : Text) : Option Text → Text
  | none | some [] => symbol
  | some text => text

/-- An import that is not in the table yet takes a name for what it wants to be called. -/
theorem Compile.ends_addImport_takesNames {suggests : NameSlot → Text → Prop} {start : Names}
    {before : Tables} {app : Option Text} {source symbol : Text} {suggestion : Option Text}
    (suggested : suggests (.imported source symbol) (wantedName symbol suggestion))
    (reached : TakesNames suggests start (before.names app)) :
    (addImport source symbol suggestion).Ends before
      (fun _ after => TakesNames suggests start (after.names app)) fun _ => True := by
  rw [ends_addImport]
  split
  · trivial
  · split
    · exact reached
    · next absent =>
        have moved := reached.tail (.take suggested absent)
        rwa [← before.names_enter] at moved

namespace Environment

/-- The suggestions that are made while a page is compiled. -/
inductive Requests (env : Environment) : NameSlot → Text → Prop
  | library : Requests env (.imported reactModule ImportTable.defaultSymbol) "React"
  | runtime : env.editor = true →
      Requests env (.imported runtimeModule ImportTable.wholeSymbol) "__studioRuntime"
  | app : Requests env .app "App"
  | reference {slot : NameSlot} {suggestion : Text} :
      env.Suggests slot suggestion → Requests env slot suggestion
  | loader (query : Text) : Requests env (.loader query) query
  | imported {source symbol : Text} {suggestion : Option Text} :
      env.AsksFor source symbol suggestion →
      Requests env (.imported source symbol) (wantedName symbol suggestion)

/-- The names that every module needs are taken first. -/
theorem ends_startNames_takesNames {editor : Bool} {suggests : NameSlot → Text → Prop}
    (library : suggests (.imported reactModule ImportTable.defaultSymbol) "React")
    (runtime : editor = true →
      suggests (.imported runtimeModule ImportTable.wholeSymbol) "__studioRuntime")
    (app : suggests .app "App") :
    (startNames editor).Ends .empty
      (fun names tables =>
        TakesNames suggests (Tables.empty.names none) (tables.names (some names.2.2)))
      fun _ => True := by
  have named : ∀ {middle : Tables}, TakesNames suggests (Tables.empty.names none) (middle.names none) →
      (middle.names none).nameOf? .app = none →
      TakesNames suggests (Tables.empty.names none)
        (Tables.names
          { middle with scope := ⟨middle.scope.names ++ [freshName middle.scope.names "App"]⟩ }
          (some (freshName middle.scope.names "App"))) := by
    intro middle reached isOpen
    rw [middle.names_app]
    exact reached.tail (.take app isOpen)
  have nothing : TakesNames suggests (Tables.empty.names none) (Tables.empty.names none) := .refl
  rw [startNames, ends_bind]
  refine (ends_addImport_takesNames library nothing).imp ?_ (fun _ failed => failed)
  intro react middle reached
  cases editor with
  | false => exact named reached rfl
  | true =>
      simp only [if_true]
      rw [ends_bind]
      refine (ends_addImport_takesNames (runtime rfl) reached).imp ?_ (fun _ failed => failed)
      exact fun _ _ reached => named reached rfl

theorem takesNames_of_start {document : Document} {catalog : Catalog} {editor : Bool} {page : Node}
    {env : Environment} {tables : Tables}
    (start_ok : start document catalog editor page = .ok (env, tables)) :
    TakesNames env.Requests (Tables.empty.names none) (tables.names (some env.appName)) := by
  rw [start_eq] at start_ok
  split at start_ok
  · next react runtime app after ran =>
      cases start_ok
      exact (ends_startNames_takesNames .library (fun isEditor => .runtime isEditor) .app).of_ok ran
  · cases start_ok

end Environment

/-- Rendering takes names only for what it asks for. -/
theorem renderRules_takesNames (env : Environment) (start : Names) (app : Option Text) :
    RenderRules env (fun tables => TakesNames env.Requests start (tables.names app))
      fun _ => True where
  warn _ _ reached := reached
  load query before reached := by
    rw [ends_useLoader_iff]
    split
    · exact reached
    · next absent =>
        have moved := reached.tail (.take (.loader query) absent)
        rwa [← before.names_load] at moved
  template _ := trivial
  directive _ := trivial
  query _ _ := trivial
  enter _ _ _ asks _ reached := ends_addImport_takesNames (.imported asks) reached

namespace Tables

variable {tables : Tables} {app name : Text} {slot : NameSlot}

theorem mem_namedSlots_of_nameOf? (found : (tables.names (some app)).nameOf? slot = some name) :
    (slot, name) ∈ tables.namedSlots app := by
  simp only [namedSlots, List.mem_append, List.mem_flatMap, List.mem_map, List.mem_cons,
    List.not_mem_nil, or_false, Prod.mk.injEq]
  cases slot with
  | imported source symbol =>
      obtain ⟨symbols, inModules, inSymbols⟩ := Option.bind_eq_some_iff.mp found
      exact .inl (.inl (.inl (.inl ⟨(source, symbols), Table.mem_entries_iff.mpr inModules,
        (symbol, name), Table.mem_entries_iff.mpr inSymbols, rfl, rfl⟩)))
  | app =>
      cases found
      exact .inl (.inl (.inl (.inr ⟨rfl, rfl⟩)))
  | state key =>
      obtain ⟨cell, inCells, rfl⟩ := Option.map_eq_some_iff.mp found
      exact .inl (.inl (.inr ⟨(key, cell), Table.mem_entries_iff.mpr inCells, .inl ⟨rfl, rfl⟩⟩))
  | setter key =>
      obtain ⟨cell, inCells, rfl⟩ := Option.map_eq_some_iff.mp found
      exact .inl (.inl (.inr ⟨(key, cell), Table.mem_entries_iff.mpr inCells, .inr ⟨rfl, rfl⟩⟩))
  | loader query =>
      exact .inl (.inr ⟨(query, name), Table.mem_entries_iff.mpr found, rfl, rfl⟩)
  | derived id =>
      exact .inr ⟨(id, name), Table.mem_entries_iff.mpr found, rfl, rfl⟩

/-- The names that are taken are those that the module declares. -/
theorem mem_moduleNames_iff {suggests : NameSlot → Text → Prop}
    (own : (tables.names (some app)).Own) (sourced : (tables.names (some app)).Sourced suggests) :
    name ∈ tables.moduleNames app ↔ name ∈ (tables.names (some app)).taken := by
  refine ⟨mem_taken_of_mem_moduleNames own, fun member => ?_⟩
  obtain ⟨slot, found⟩ := sourced.taken name member
  rw [← map_snd_namedSlots]
  exact List.mem_map.mpr ⟨_, mem_namedSlots_of_nameOf? found, rfl⟩

end Tables

theorem sourced_empty (suggests : NameSlot → Text → Prop) :
    (Tables.empty.names none).Sourced suggests := by
  refine ⟨?_, ?_⟩
  · intro slot name found
    cases slot <;> cases found
  · intro name member
    cases member

namespace PageRun

variable {document : Document} {pageId : Text} {catalog : Catalog} {editor : Bool}
  (run : PageRun document pageId catalog editor)

theorem takesNames (keyed : document.Keyed) :
    TakesNames run.env.Requests (Tables.empty.names none)
      (run.loaded.names (some run.env.appName)) := by
  have started := Environment.takesNames_of_start run.start_ok
  have collected : TakesNames run.env.Requests (run.started.names (some run.env.appName))
      (run.collected.names (some run.env.appName)) :=
    (run.completed keyed).collects.takesNames.mono fun _ _ => .reference
  have rules := renderRules_takesNames run.env (Tables.empty.names none) (some run.env.appName)
  have rendered := (Markup.safe_renderRoot rules (fun _ => trivial) _
    (started.trans collected)).of_ok run.render_ok
  have declared := (Safe.mapM (fun id _ => Declarations.safe_derivedLine rules (fun _ _ => trivial)
    fun _ _ _ => trivial) _ rendered).of_ok run.declare_ok
  exact (Declarations.safe_loaderLines rules _ declared).of_ok run.load_ok

theorem sourced (keyed : document.Keyed) :
    (run.loaded.names (some run.env.appName)).Sourced run.env.Requests :=
  (run.takesNames keyed).sourced (sourced_empty _)

/-- While the page was compiled the slot got its name for the suggestion. -/
def NamedAfter (slot : NameSlot) (suggestion : Text) : Prop :=
  run.env.Requests slot suggestion ∧
    (run.loaded.names (some run.env.appName)).TookFor slot suggestion

theorem mem_moduleNames_iff (keyed : document.Keyed) {word : Text}
    (unreserved : Identifier.isReserved word = false) (plain : isNumbered word = false) :
    word ∈ run.loaded.moduleNames run.env.appName ↔ ∃ slot suggestion,
      run.NamedAfter slot suggestion ∧ Identifier.sanitize suggestion = word := by
  rw [Tables.mem_moduleNames_iff (run.own keyed) (run.sourced keyed),
    (run.sourced keyed).mem_taken_iff unreserved plain]
  simp only [NamedAfter, and_assoc]

end PageRun

/-- A template is written with the directive `number`, as a call of the global. -/
def PageRun.CallsNumber {document : Document} {pageId : Text} {catalog : Catalog} {editor : Bool}
    (run : PageRun document pageId catalog editor) : Prop :=
  ∃ node seed props name text code, run.Resolves node seed props ∧
    node.props.get? name = some (some (.template text (some "number"))) ∧
    props.get? name = some (.expression ("Number(" ++ code ++ ")"))

/-- If a page compiles, a word that is not reserved and ends in no digit is declared by its module if
    and only if something was named after a suggestion with that identifier. The words that the
    generated code uses as globals are declared like all others, unless they are reserved. -/
theorem compilePage_declares_iff {document : Document} {pageId : Text} {config : RenderConfig}
    {catalog : Catalog} {text : Text} (keyed : document.Keyed)
    (compiled : (compilePage document pageId config catalog).result = .ok text) :
    ∃ run : PageRun document pageId catalog config.editor, text = run.text config.pretty ∧
      ∀ word, Identifier.isReserved word = false → isNumbered word = false →
        (word ∈ run.loaded.moduleNames run.env.appName ↔ ∃ slot suggestion,
          run.NamedAfter slot suggestion ∧ Identifier.sanitize suggestion = word) := by
  obtain ⟨run, isText⟩ := exists_pageRun compiled
  exact ⟨run, isText, fun word => run.mem_moduleNames_iff keyed⟩

theorem ResolvedProps.exists_call_of_number {tables : Tables} {text code : Text}
    (formatted : templateCode tables text (some "number") = .ok code) :
    ∃ inner, code = "Number(" ++ inner ++ ")" := by
  have directive : Directive.ofName? ((some (Text.ofString "number")).getD []) = some .number := by
    decide
  unfold templateCode Template.format at formatted
  simp only [directive, Template.firstUnresolved?_resolve] at formatted
  split at formatted
  · cases formatted
  · cases formatted
    exact ⟨_, rfl⟩

namespace Form

/-- Shows the derived value of the node below. -/
def numberLabel : Node :=
  placed "label" "Typography" "a" [("value", some (.binding "Number.sum"))]

/-- Named like a global that its own code calls. -/
def number : Node :=
  ⟨"total", "Number",
    .ofList [("base", some (.template "\x7b\x7bfield.value\x7d\x7d" (some "number")))], none, none, none,
    .derived (.ofList [("base", "string")])⟩

def numbered : Document :=
  .ofList [("page", page), ("label", numberLabel), ("field", field), ("total", number)]

theorem exists_compiled_numbered :
    ∃ text, (compilePage numbered "page" ⟨false, false⟩ Catalog.builtin).result = .ok text := by
  have succeeded :
      (compilePage numbered "page" ⟨false, false⟩ Catalog.builtin).result.toOption.any
        (fun _ => true) = true := by
    decide +kernel
  obtain ⟨text, compiled, _⟩ := Outcome.exists_text succeeded
  exact ⟨text, compiled⟩

variable (run : PageRun numbered "page" Catalog.builtin false)

theorem derived_numbered : run.collected.derived.get? "total" = some "Number" := by
  have checked : (Environment.start numbered Catalog.builtin false page).toOption.any
      (fun opened => ((Collection.collectPage opened.1 *> get).run' opened.2).any
        fun after => after.derived.get? "total" == some (Text.ofString "Number")) = true := by
    decide +kernel
  have collected := run.check_started rfl checked
  rw [run'_get run.collect_ok] at collected
  exact eq_of_beq collected

theorem number_mem_moduleNames :
    Text.ofString "Number" ∈ run.loaded.moduleNames run.env.appName := by
  refine Tables.mem_moduleNames_of_mem_bodyNames (Tables.derived_mem_bodyNames ?_)
  rw [run.renders_all.sameCollected.derived]
  exact Table.mem_values_iff.mpr ⟨"total", derived_numbered run⟩

theorem callsNumber_numbered : run.CallsNumber := by
  have inOrder : Text.ofString "total" ∈ run.order :=
    run.ordered.2 (Table.mem_keys_iff.mpr ⟨"Number", derived_numbered run⟩)
  obtain ⟨line, _, node, props, _, _, found, _, resolves, _⟩ :=
    exists_of_mem_forall₂ (run.derivedLines_made (by decide)) inOrder
  cases found
  have resolved := resolves
  obtain ⟨tables, after, _, ran, _⟩ := resolved
  obtain ⟨written, middle, authored, ran⟩ := run_bind_eq_ok.mp ran
  cases ran
  -- The node has one prop, which is declared and holds the template.
  obtain ⟨props, middle, entered, last⟩ := run_bind_eq_ok.mp authored
  cases last
  obtain ⟨code, formatted, last⟩ := run_ofExcept_bind_eq_ok.mp (run_get_bind_eq_ok.mp entered)
  cases last
  obtain ⟨inner, rfl⟩ := ResolvedProps.exists_call_of_number formatted
  exact ⟨number, .empty, _, "base", _, inner, resolves, rfl, Table.get?_insert_self _ _ _⟩

end Form

/-- The reserved words leave out the global that the directive `number` calls. -/
theorem number_captured : ¬ ∀ (document : Document) (pageId : Text) (config : RenderConfig)
    (catalog : Catalog) (text : Text), document.Keyed →
      (compilePage document pageId config catalog).result = .ok text →
      ∃ run : PageRun document pageId catalog config.editor, text = run.text config.pretty ∧
        (run.CallsNumber → Text.ofString "Number" ∉ run.loaded.moduleNames run.env.appName) := by
  intro claimed
  obtain ⟨text, compiled⟩ := Form.exists_compiled_numbered
  obtain ⟨run, _, apart⟩ := claimed _ _ _ _ _ (by decide) compiled
  refine apart (Form.callsNumber_numbered run) (Form.number_mem_moduleNames run)

theorem compilePage_declares_iff_numbered : ∃ run : PageRun Form.numbered "page" Catalog.builtin false,
    (compilePage Form.numbered "page" ⟨false, false⟩ Catalog.builtin).result =
      .ok (run.text false) ∧
    ∃ slot suggestion, run.NamedAfter slot suggestion ∧
      Identifier.sanitize suggestion = Text.ofString "Number" := by
  obtain ⟨text, compiled⟩ := Form.exists_compiled_numbered
  obtain ⟨run, rfl, declares⟩ := compilePage_declares_iff (by decide) compiled
  exact ⟨run, compiled,
    (declares "Number" (by decide) (by decide)).mp (Form.number_mem_moduleNames run)⟩

end PageCompiler
