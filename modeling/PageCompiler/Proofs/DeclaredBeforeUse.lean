/-
  No name is used before its declaration, and none that is not declared.

  Collection has noted a dependency for every reference of a derived node to another, so the order of
  the derived lines puts what a line reads before it. What rendering reads, sets or spreads comes from
  the tables, and every name in these is declared by one line of the body. Aliases come from the table
  of imports, which only grows until the header is written from it.
-/
import PageCompiler.Proofs.BodyLines

namespace PageCompiler.PageRun

open Collection Compile Declarations DerivedOrder ResolvedProps

variable {document : Document} {pageId : Text} {catalog : Catalog} {editor : Bool}
  (run : PageRun document pageId catalog editor)

/-- The code is undefined, or it starts with the name of a state or with a derived value that is
    declared before the given position. -/
def ReadsEarlier (position : Nat) (code : Text) : Prop :=
  code = Code.undefinedText ∨
    ∃ head path, Text.segments code = head :: path ∧
      ((∃ line ∈ stateLines run.env run.rendered, (declaredNames line).head? = some head) ∨
        ∃ earlier < position, ∃ line, run.derivedLines[earlier]? = some line ∧
          declaredNames line = [head])

/-- The names that rendering takes from the tables: the heads of what it reads, states, setters and
    the variables it spreads. -/
inductive Uses : Text → Prop
  | read {tables : Tables} {reference head : Text} {path : List Text} :
      run.Moment tables → readReference tables reference ≠ Code.undefinedText →
      Text.segments (readReference tables reference) = head :: path → Uses head
  | state {tables : Tables} {nodeId prop : Text} {cell : Cell} :
      run.Moment tables → tables.cell? nodeId prop = some cell → Uses cell.state
  | setter {tables : Tables} {nodeId prop : Text} {cell : Cell} :
      run.Moment tables → tables.cell? nodeId prop = some cell → Uses cell.setter
  | spread {tables after : Tables} {query name : Text} :
      run.Moment tables → (useLoader query).run tables = .ok name after →
      Renders after run.loaded → Uses name

/-- Every use of a name comes after its one declaration. -/
structure WellScoped : Prop where
  /-- What a derived line reads is declared before it. -/
  earlier : ∀ {position id node reference tables}, run.order[position]? = some id →
    document.get? id = some node → node.Refers reference → run.Moment tables →
    run.ReadsEarlier position (readReference tables reference)
  /-- Props are written from what the tables hold. -/
  written : ∀ {node seed props}, run.Resolves node seed props →
    AllWritten run.env node seed run.Moment props
  /-- What rendering uses is declared by one line. -/
  once : ∀ {name}, run.Uses name →
    run.body.countP (fun line => name ∈ declaredNames line) = 1
  header : run.frozenImports.render = .ok run.header
  react : run.frozenImports.localName? Environment.reactModule ImportTable.defaultSymbol =
    some run.env.reactName
  runtime : editor = true →
    run.frozenImports.localName? Environment.runtimeModule ImportTable.wholeSymbol =
      some run.env.runtimeName
  /-- The loader lines call the imported hook. -/
  loaders : ∃ hook, run.loaderLines = run.loaded.loaders.entries.map (loaderLine hook) ∧
    (run.loaderLines ≠ [] → run.frozenImports.localName? queryModule queryHook = some hook)
  /-- The derived lines call the imported getters. -/
  derived : List.Forall₂ run.DerivedLine run.order run.derivedLines

variable {reference code : Text} {tables : Tables}

theorem justified (keyed : document.Keyed) : run.env.Justified run.collected :=
  (run.completed keyed).collects.justified run.isStarted.justified

/-- The code of a reference starts with the name of a state or of a derived value. -/
theorem head_of_reads (keyed : document.Keyed) (reads : run.env.Reads run.collected reference code) :
    ∃ head path, Text.segments code = head :: path ∧ head ∈ run.loaded.bodyNames ∧
      ((∃ cell ∈ run.loaded.cells.values, head = cell.state) ∨
        ∃ target, run.env.target? reference = some target ∧ target.isDerived = true ∧
          run.loaded.derived.get? target.id = some head) := by
  have same := run.renders_all.sameCollected
  cases reads with
  | @element element cell named isElement found =>
      have member : cell ∈ run.loaded.cells.values := by
        rw [same.cells]
        exact Table.mem_values_iff.mpr ⟨_, found⟩
      have declared := Tables.state_mem_bodyNames member
      refine ⟨cell.state, (Reference.path reference).tail, ?_, declared, .inl ⟨cell, member, rfl⟩⟩
      exact segments_accessor (run.isValid_of_mem_bodyNames keyed declared)
        fun piece inside => Reference.dot_not_mem_path (List.mem_of_mem_tail inside)
  | @derived target identifier named isDerived found =>
      rw [← same.derived] at found
      have declared := Tables.derived_mem_bodyNames (Table.mem_values_iff.mpr ⟨_, found⟩)
      refine ⟨identifier, Reference.path reference, ?_, declared,
        .inr ⟨target, named, isDerived, found⟩⟩
      exact segments_accessor (run.isValid_of_mem_bodyNames keyed declared)
        fun piece => Reference.dot_not_mem_path

/-- At every moment a reference is undefined or is read by the code that collection gave it. -/
theorem readReference_cases (keyed : document.Keyed) (moment : run.Moment tables)
    (reference : Text) :
    readReference tables reference = Code.undefinedText ∨
      run.env.Reads run.collected reference (readReference tables reference) := by
  rw [readReference, moment.1.sameCollected.accessors]
  cases found : run.collected.accessors.get? reference with
  | none => exact .inl rfl
  | some code =>
      have reads := ((run.justified keyed).accessors found).2
      cases code with
      | nil => exact .inl rfl
      | cons first rest => exact .inr reads

theorem derived_node_reached (keyed : document.Keyed) {id : Text} {node : Node}
    (member : id ∈ run.order) (found : document.get? id = some node) :
    run.env.Reached node ∧ node.isDerived = true ∧ node.id = id := by
  have consistent := run.consistent keyed
  have isKey := (run.order_perm keyed).mem_iff.mp member
  rw [run.renders_all.sameCollected.derived] at isKey
  obtain ⟨identifier, named⟩ := Table.mem_keys_iff.mp isKey
  -- An id of the order is the id of a node that some reference names.
  obtain ⟨reference, target, needs, isDerived, isId⟩ := (run.justified keyed).derived named
  have stored := consistent.get?_target needs.named
  rw [(Environment.start_given run.start_ok).1, isId, found] at stored
  cases stored
  obtain ⟨owner, reached, refers, target_eq⟩ := needs
  exact ⟨.named reached refers target_eq isDerived, isDerived, isId⟩

/-- An id on which another one depends has its place before it. -/
theorem exists_earlier {position : Nat} {id dependencyId : Text}
    (found : run.order[position]? = some id)
    (depends : dependencyId ∈ successors run.collected.dependencies id) :
    ∃ earlier < position, run.order[earlier]? = some dependencyId := by
  obtain ⟨inside, isId⟩ := List.getElem?_eq_some_iff.mp found
  have parts : run.order = run.order.take position ++ id :: run.order.drop (position + 1) := by
    rw [← isId, List.getElem_cons_drop inside, List.take_append_drop]
  have before := run.ordered.1.earlier parts dependencyId depends
  obtain ⟨earlier, bound, isDependency⟩ := List.mem_iff_getElem.mp before
  rw [List.length_take, Nat.lt_min] at bound
  refine ⟨earlier, bound.1, ?_⟩
  rw [List.getElem?_eq_getElem bound.2, ← isDependency, List.getElem_take]

/-- What a derived line reads is declared before it. -/
theorem readsEarlier (keyed : document.Keyed) {position : Nat} {id : Text} {node : Node}
    (at_ : run.order[position]? = some id) (found : document.get? id = some node)
    (refers : node.Refers reference) (moment : run.Moment tables) :
    run.ReadsEarlier position (readReference tables reference) := by
  obtain ⟨reached, ownerDerived, isId⟩ :=
    run.derived_node_reached keyed (List.mem_of_getElem? at_) found
  have handled := ((run.completed keyed).covered node reached).handled refers
  refine (run.readReference_cases keyed moment reference).imp_right ?_
  intro reads
  obtain ⟨head, path, segments, _, source⟩ := run.head_of_reads keyed reads
  refine ⟨head, path, segments, ?_⟩
  rcases source with ⟨cell, member, rfl⟩ | ⟨target, named, isDerived, identifier⟩
  · refine .inl ⟨stateLine run.env cell, ?_, ?_⟩
    · rw [run.cells_eq] at member
      exact List.mem_map_of_mem member
    · rw [declaredNames_stateLine
        (run.isValid_of_mem_bodyNames keyed (Tables.state_mem_bodyNames member))
        (run.isValid_of_mem_bodyNames keyed (Tables.setter_mem_bodyNames member))]
      rfl
  -- The dependency was noted when the reference was collected, and the order respects it.
  · have depends := handled.depends named isDerived ownerDerived
    rw [isId] at depends
    obtain ⟨earlier, before, place⟩ := run.exists_earlier at_ depends
    obtain ⟨line, isLine, made⟩ :=
      exists_of_getElem?_forall₂ (run.derivedLines_made keyed) place
    obtain ⟨identifier', named', declared⟩ := run.declaredNames_of_derivedLine keyed made
    cases identifier.symm.trans named'
    exact .inr ⟨earlier, before, line, isLine, declared⟩

/-- What rendering uses is a name of the tables. -/
theorem Uses.mem_bodyNames (keyed : document.Keyed) {name : Text} (uses : run.Uses name) :
    name ∈ run.loaded.bodyNames := by
  have cells : ∀ {tables : Tables} {key : Text} {cell : Cell}, run.Moment tables →
      tables.cells.get? key = some cell → cell ∈ run.loaded.cells.values := by
    intro tables key cell moment found
    rw [moment.2.sameCollected.cells]
    exact Table.mem_values_iff.mpr ⟨key, found⟩
  cases uses with
  | @read tables reference _ path moment isDefined segments =>
      rcases run.readReference_cases keyed moment reference with missing | reads
      · exact absurd missing isDefined
      · obtain ⟨head, path', segments', declared, _⟩ := run.head_of_reads keyed reads
        cases segments.symm.trans segments'
        exact declared
  | state moment found => exact Tables.state_mem_bodyNames (cells moment found)
  | setter moment found => exact Tables.setter_mem_bodyNames (cells moment found)
  | spread moment ran later =>
      have known := later.keeps.loaders ((ends_useLoader _).of_ok ran).2
      exact Tables.loader_mem_bodyNames (Table.mem_values_iff.mpr ⟨_, known⟩)

theorem wellScoped (keyed : document.Keyed) : run.WellScoped where
  earlier at_ found refers moment := run.readsEarlier keyed at_ found refers moment
  written := by
    rintro node seed props ⟨tables, after, start, resolved, stop⟩
    refine allWritten_resolve ?_ resolved
    intro moment reached left
    exact ⟨start.1.trans reached, left.trans stop.2⟩
  once uses := run.declared_once keyed (uses.mem_bodyNames run keyed)
  header := run.header_ok
  react := by
    have entry := run.isStarted.react
    rw [← (run.completed keyed).collects.imports_eq] at entry
    exact run.renders_all.keeps.localNames entry
  runtime isEditor := by
    have entry := run.isStarted.runtime
    rw [← (run.completed keyed).collects.imports_eq, (Environment.start_given run.start_ok).2.2.2]
      at entry
    exact run.renders_all.keeps.localNames (entry isEditor)
  loaders := run_loaderLines run.load_ok
  derived := run.derivedLines_made keyed

end PageCompiler.PageRun

namespace PageCompiler

/-- If a page compiles, its module uses no name before its declaration and none that is not declared:
    derived lines read what is declared before them, every name that rendering uses is declared by
    one line of the body, and every alias is an entry of the import table that the header is written
    from. -/
theorem compilePage_wellScoped {document : Document} {pageId : Text} {config : RenderConfig}
    {catalog : Catalog} {text : Text} (keyed : document.Keyed)
    (compiled : (compilePage document pageId config catalog).result = .ok text) :
    ∃ run : PageRun document pageId catalog config.editor, text = run.text config.pretty ∧
      run.WellScoped := by
  obtain ⟨run, isText⟩ := exists_pageRun compiled
  exact ⟨run, isText, run.wellScoped keyed⟩

theorem compilePage_wellScoped_form :
    ∃ run : PageRun Form.document "page" Catalog.builtin true,
      (compilePage Form.document "page" ⟨true, false⟩ Catalog.builtin).result =
        .ok (run.text false) ∧ run.WellScoped := by
  obtain ⟨text, compiled⟩ := Form.exists_compiled
  obtain ⟨run, rfl, wellScoped⟩ := compilePage_wellScoped (by decide) compiled
  exact ⟨run, compiled, wellScoped⟩

end PageCompiler
