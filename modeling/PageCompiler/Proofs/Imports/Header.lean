/-
  The import header loses nothing.

  A frozen table that any run of requests has built is written line by line, and reading the lines
  gives its imports back: each once, source by source in the order of their first imports, named
  symbols in the order of theirs (`ImportState.readHeader_render`). Only a whole-module import next to
  named symbols takes a second line.
-/
import PageCompiler.Proofs.Imports.Reading
import PageCompiler.Proofs.Imports.Runs

namespace PageCompiler

/-! ## One source -/

/-- Whether a symbol is imported by name. -/
def ImportTable.isNamed (symbol : Text) : Bool := symbol ≠ defaultSymbol && symbol ≠ wholeSymbol

/-- The symbols that clauses import, with their local names. -/
def ImportClauses.bindings (clauses : ImportClauses) : List (Text × Text) :=
  clauses.defaultName?.toList.map (ImportTable.defaultSymbol, ·) ++
    clauses.wholeName?.toList.map (ImportTable.wholeSymbol, ·) ++ clauses.named

/-- The clauses of the declarations of one source import its symbols under their aliases. -/
structure ImportClauses.Cover (symbols : List (Text × Text)) (declared : List ImportClauses) :
    Prop where
  /-- Each symbol is imported once, and nothing else is. -/
  once : (declared.flatMap bindings).Perm symbols
  named : declared.flatMap (·.named) = symbols.filter fun entry => ImportTable.isNamed entry.1
  lines : declared.length =
    if (∃ entry ∈ symbols, entry.1 = ImportTable.wholeSymbol) ∧
      (∃ entry ∈ symbols, ImportTable.isNamed entry.1 = true) then 2 else 1
  binds : ∀ clauses ∈ declared, clauses.bindings ≠ []
  apart : ∀ clauses ∈ declared, clauses.wholeName? = none ∨ clauses.named = []

/-- The declarations are those of a source whose symbols have the given aliases. -/
structure ImportDeclaration.Tell (source : Text) (symbols : List (Text × Text))
    (declarations : List ImportDeclaration) : Prop where
  /-- The source is the same in UTF-16, which does not tell the surrogates of a pair from its
      character; a text of characters is the same. -/
  source : ∀ declaration ∈ declarations, declaration.source.units = source.units ∧
    (source.isScalar = true → declaration.source = source)
  symbols : ImportClauses.Cover symbols (declarations.map (·.clauses))

namespace ImportTable

variable {symbols : Table Text}

/-- The clauses of a module's declarations. -/
def declared (symbols : Table Text) : List ImportClauses :=
  if (symbols.get? wholeSymbol).isNone then
    [⟨symbols.get? defaultSymbol, none, namedSymbols symbols⟩]
  else
    ⟨symbols.get? defaultSymbol, symbols.get? wholeSymbol, []⟩ ::
      if (namedSymbols symbols).isEmpty then [] else [⟨none, none, namedSymbols symbols⟩]

theorem moduleLines_eq (source : Text) (symbols : Table Text) :
    moduleLines source symbols =
      (declared symbols).map fun clauses => declaration clauses.texts source := by
  unfold moduleLines declared
  cases symbols.get? wholeSymbol <;> cases namedSymbols symbols <;>
    simp [ImportClauses.texts]

/-- The three kinds of symbols are all that there are. -/
theorem entries_perm (symbols : Table Text) :
    ((symbols.get? defaultSymbol).toList.map (defaultSymbol, ·) ++
      (symbols.get? wholeSymbol).toList.map (wholeSymbol, ·) ++ namedSymbols symbols).Perm
        symbols.entries := by
  let others := symbols.entries.filter fun entry => !decide (entry.1 = defaultSymbol)
  have apart : ¬ wholeSymbol = defaultSymbol := by decide
  have whole : others.filter (fun entry => decide (entry.1 = wholeSymbol)) =
      (symbols.get? wholeSymbol).toList.map (wholeSymbol, ·) := by
    rw [← Table.filter_entries_key, List.filter_filter]
    refine List.filter_congr fun entry _ => ?_
    by_cases isWhole : entry.1 = wholeSymbol <;> simp [isWhole, apart]
  have named : others.filter (fun entry => !decide (entry.1 = wholeSymbol)) =
      namedSymbols symbols := by
    unfold namedSymbols
    rw [List.filter_filter]
    refine List.filter_congr fun entry _ => ?_
    simp [Bool.and_comm]
  rw [← Table.filter_entries_key symbols defaultSymbol, ← whole, ← named, List.append_assoc]
  exact ((List.filter_append_perm _ others).append_left _).trans
    (List.filter_append_perm _ symbols.entries)

theorem exists_whole_iff : (∃ entry ∈ symbols.entries, entry.1 = wholeSymbol) ↔
    (symbols.get? wholeSymbol).isSome = true := by
  rw [Option.isSome_iff_exists]
  constructor
  · rintro ⟨⟨symbol, name⟩, member, rfl⟩
    exact ⟨name, Table.mem_entries_iff.mp member⟩
  · rintro ⟨name, found⟩
    exact ⟨_, Table.mem_entries_iff.mpr found, rfl⟩

theorem exists_named_iff : (∃ entry ∈ symbols.entries, isNamed entry.1 = true) ↔
    namedSymbols symbols ≠ [] := by
  unfold namedSymbols
  rw [ne_eq, List.filter_eq_nil_iff]
  simp [isNamed]

theorem cover_declared (filled : symbols.entries ≠ []) :
    ImportClauses.Cover symbols.entries (declared symbols) := by
  have perm := entries_perm symbols
  have named : symbols.entries.filter (fun entry => isNamed entry.1) = namedSymbols symbols := rfl
  unfold declared
  cases whole : symbols.get? wholeSymbol with
  | none =>
      -- One line takes everything.
      rw [whole] at perm
      refine ⟨?_, ?_, ?_, ?_, ?_⟩
      · simpa [ImportClauses.bindings] using perm
      · simp [named]
      · refine Eq.trans (b := 1) rfl (if_neg fun both => ?_).symm
        simpa [whole] using exists_whole_iff.mp both.1
      · refine List.forall_mem_singleton.mpr fun unbound => ?_
        rw [ImportClauses.bindings] at unbound
        rw [unbound] at perm
        exact filled perm.nil_eq.symm
      · simp
  | some name =>
      rw [whole] at perm
      have isWhole := exists_whole_iff.mpr (Option.isSome_iff_exists.mpr ⟨name, whole⟩)
      by_cases noNamed : namedSymbols symbols = []
      · refine ⟨?_, ?_, ?_, ?_, ?_⟩
        · simpa [noNamed, ImportClauses.bindings] using perm
        · simp [noNamed, named]
        · refine Eq.trans (b := 1) ?_ (if_neg fun both => exists_named_iff.mp both.2 noNamed).symm
          simp [noNamed]
        · simp [noNamed, ImportClauses.bindings]
        · simp [noNamed]
      · refine ⟨?_, ?_, ?_, ?_, ?_⟩
        · simpa [noNamed, ImportClauses.bindings] using perm
        · simp [noNamed, named]
        · refine Eq.trans (b := 2) ?_ (if_pos ⟨isWhole, exists_named_iff.mpr noNamed⟩).symm
          simp [noNamed]
        · simp [noNamed, ImportClauses.bindings]
        · simp [noNamed]

theorem tell_declared (source : Text) (filled : symbols.entries ≠ []) :
    ImportDeclaration.Tell source symbols.entries
      ((declared symbols).map (⟨·, Text.joined source⟩)) where
  source := by
    intro declaration member
    obtain ⟨clauses, _, rfl⟩ := List.mem_map.mp member
    exact ⟨Text.units_joined source, Text.joined_of_isScalar⟩
  symbols := by
    rw [List.map_map]
    simpa [Function.comp_def] using cover_declared filled

theorem areNames_declared {letters : NameLetters}
    (aliases : ∀ entry ∈ symbols.entries, letters.IsName entry.2)
    (exports : ∀ entry ∈ symbols.entries, isNamed entry.1 = true → letters.IsName entry.1) :
    ∀ clauses ∈ declared symbols, clauses.AreNames letters := by
  have found : ∀ key, ∀ name ∈ symbols.get? key, letters.IsName name := fun key name isName =>
    aliases (key, name) (Table.mem_entries_iff.mpr isName)
  have named : ∀ entry ∈ namedSymbols symbols, letters.IsName entry.1 ∧ letters.IsName entry.2 := by
    intro entry member
    obtain ⟨inside, isNamed⟩ := List.mem_filter.mp member
    exact ⟨exports entry inside isNamed, aliases entry inside⟩
  unfold declared
  split
  · exact List.forall_mem_singleton.mpr ⟨found _, by simp, named⟩
  · refine List.forall_mem_cons.mpr ⟨⟨found _, found _, by simp⟩, ?_⟩
    split
    · simp
    · exact List.forall_mem_singleton.mpr ⟨by simp, by simp, named⟩

end ImportTable

/-! ## The table that a run has built -/

namespace ImportState

/-- The sources of the imports that were given, in the order of their first ones. -/
def sources (history : List (ImportRequest × ImportAnswer)) : List Text :=
  ((given history).map (·.source)).eraseDups

/-- The symbols of a source that were given, with their aliases and in the order of their first
    ones. -/
def symbolsOf (history : List (ImportRequest × ImportAnswer)) (source : Text) : List (Text × Text) :=
  (((given history).filter (·.source = source)).map fun entry => (entry.symbol, entry.name)).eraseDups

/-- What the table knows of the order of its imports. -/
structure Lists (past : List (ImportRequest × ImportAnswer)) (state : ImportState) : Prop where
  sources : state.table.modules.keys = sources past
  symbols : ∀ source,
    ((state.table.modules.get? source).getD .empty).entries = symbolsOf past source
  valid : ∀ entry ∈ given past, Identifier.IsValid entry.name

variable {state next : ImportState} {request : ImportRequest} {answered : ImportAnswer}
  {past : List (ImportRequest × ImportAnswer)} {scope : Scope}

theorem sources_append (latest : ImportRequest × ImportAnswer) :
    sources (past ++ [latest]) =
      match granted? latest with
      | none => sources past
      | some entry =>
          if entry.source ∈ sources past then sources past else sources past ++ [entry.source] := by
  unfold sources
  rw [given_append]
  cases granted? latest with
  | none => simp
  | some entry =>
      rw [Option.toList_some, List.map_append, List.map_cons, List.map_nil, eraseDups_concat]
      simp only [List.mem_eraseDups]

theorem symbolsOf_append (source : Text) (latest : ImportRequest × ImportAnswer) :
    symbolsOf (past ++ [latest]) source =
      match granted? latest with
      | none => symbolsOf past source
      | some entry =>
          if entry.source = source ∧ (entry.symbol, entry.name) ∉ symbolsOf past source then
            symbolsOf past source ++ [(entry.symbol, entry.name)]
          else symbolsOf past source := by
  unfold symbolsOf
  rw [given_append]
  cases granted? latest with
  | none => simp
  | some entry =>
      rw [Option.toList_some, List.filter_append, List.map_append]
      by_cases same : entry.source = source
      · simp only [same, decide_true, List.filter_cons_of_pos, List.filter_nil, List.map_cons,
          List.map_nil, eraseDups_concat, List.mem_eraseDups, true_and]
        split <;> simp_all
      · simp [same]

theorem lists_start (scope : Scope) : Lists [] (start scope) where
  sources := rfl
  symbols _ := rfl
  valid := by simp [given]

theorem mem_sources {entry : ImportEntry} (member : entry ∈ given past) :
    entry.source ∈ sources past :=
  List.mem_eraseDups.mpr (List.mem_map_of_mem member)

theorem mem_symbolsOf {source symbol name : Text} :
    (symbol, name) ∈ symbolsOf past source ↔ ⟨source, symbol, name⟩ ∈ given past := by
  unfold symbolsOf
  rw [List.mem_eraseDups, List.mem_map]
  constructor
  · rintro ⟨⟨_, _, _⟩, member, same⟩
    obtain ⟨inGiven, isSource⟩ := List.mem_filter.mp member
    cases of_decide_eq_true isSource
    cases same
    exact inGiven
  · intro member
    exact ⟨_, List.mem_filter.mpr ⟨member, by simp⟩, rfl⟩

/-- A request that gives no new import leaves the lists as they are. -/
theorem Lists.unchanged (lists : Lists past state) {latest : ImportRequest × ImportAnswer}
    (same : next.table.modules = state.table.modules)
    (old : ∀ entry, granted? latest = some entry → entry ∈ given past) :
    Lists (past ++ [latest]) next where
  sources := by
    rw [same, lists.sources, sources_append]
    cases isEntry : granted? latest with
    | none => rfl
    | some entry => exact (if_pos (mem_sources (old entry isEntry))).symm
  symbols := by
    intro source
    rw [same, lists.symbols, symbolsOf_append]
    cases isEntry : granted? latest with
    | none => rfl
    | some entry =>
        refine (if_neg ?_).symm
        rintro ⟨rfl, isNew⟩
        exact isNew (mem_symbolsOf.mpr (old entry isEntry))
  valid := by
    intro entry member
    rcases mem_given_append.mp member with before | isEntry
    · exact lists.valid entry before
    · exact lists.valid entry (old entry isEntry)

/-- A new import goes to the end of its source, and a new source to the end of all. -/
theorem Lists.entered (lists : Lists past state) (tracks : Tracks scope past state)
    {source symbol name : Text} {latest : ImportRequest × ImportAnswer}
    (absent : state.table.localName? source symbol = none) (valid : Identifier.IsValid name)
    (isEntry : granted? latest = some ⟨source, symbol, name⟩) :
    Lists (past ++ [latest]) (state.enter source symbol name) where
  sources := by
    rw [sources_append, isEntry, ← lists.sources]
    exact Table.keys_insert _ _ _
  symbols := by
    intro query
    have isNew : (symbol, name) ∉ symbolsOf past source := by
      intro member
      have known := tracks.aliases.mpr (mem_symbolsOf.mp member)
      rw [absent] at known
      cases known
    rw [symbolsOf_append, isEntry]
    refine (ImportTable.symbols_enter absent name query).trans ?_
    by_cases same : source = query
    · subst same
      rw [if_pos rfl, lists.symbols]
      exact (if_pos ⟨rfl, isNew⟩).symm
    · rw [if_neg (Ne.symm same), lists.symbols]
      exact (if_neg fun both => same both.1).symm
  valid := by
    intro entry member
    rcases mem_given_append.mp member with before | isLatest
    · exact lists.valid entry before
    · rw [isEntry] at isLatest
      cases isLatest
      exact valid

theorem Lists.step (lists : Lists past state) (tracks : Tracks scope past state)
    (step : Step state request answered next) : Lists (past ++ [(request, answered)]) next := by
  cases step with
  | known _ known =>
      refine lists.unchanged rfl fun entry isEntry => ?_
      cases isEntry
      exact tracks.aliases.mp known
  | entered _ absent fresh =>
      refine lists.entered tracks absent ?_ rfl
      rw [fresh]
      exact isValid_freshName _ _
  | addRefused | freeze | rendered | renderRefused | reserved =>
      exact lists.unchanged rfl nofun

theorem lists_run (scope : Scope) (requests : List ImportRequest) :
    Lists ((start scope).history requests) ((start scope).after requests) :=
  (run_induction (fun past state => Tracks scope past state ∧ Lists past state)
    (fun both step => ⟨both.1.step step, both.2.step both.1 step⟩) requests
    ⟨tracks_start scope, lists_start scope⟩).2

end ImportState

/-! ## The whole header -/

theorem mapM_eq_some {α β : Type} {f : α → Option β} {g : α → β} {items : List α}
    (each : ∀ item ∈ items, f item = some (g item)) : items.mapM f = some (items.map g) := by
  induction items with
  | nil => rfl
  | cons item items ih =>
      obtain ⟨here, later⟩ := List.forall_mem_cons.mp each
      rw [List.mapM_cons, here, ih later]
      rfl

namespace ImportTable

/-- Declarations are read back from a header of theirs. -/
theorem readHeader_intercalate {letters : NameLetters} {written : List (ImportClauses × Text)}
    (names : ∀ line ∈ written, line.1.AreNames letters) :
    letters.readHeader (List.intercalate "\n"
        (written.map fun line => declaration line.1.texts line.2)) =
      some (written.map fun line => ⟨line.1, Text.joined line.2⟩) := by
  unfold NameLetters.readHeader
  rw [Text.splitLines_intercalate, List.mapM_map]
  · exact mapM_eq_some fun line member => NameLetters.readDeclaration_text (names line member) line.2
  · intro line member
    obtain ⟨source, inside, rfl⟩ := List.mem_map.mp member
    exact NameLetters.unbroken_declaration (names source inside) source.2
  · intro line member
    obtain ⟨source, _, rfl⟩ := List.mem_map.mp member
    exact List.append_ne_nil_of_right_ne_nil _ (by decide)

end ImportTable

namespace ImportState

/-- The clauses of a run's declarations, each with its source. -/
def written (history : List (ImportRequest × ImportAnswer)) (table : ImportTable) :
    List (ImportClauses × Text) :=
  (sources history).flatMap fun source =>
    (ImportTable.declared ((table.modules.get? source).getD .empty)).map (·, source)

theorem Lists.render (lists : Lists past state) : state.table.freeze.render =
    .ok (List.intercalate "\n"
      ((written past state.table).map fun line => ImportTable.declaration line.1.texts line.2)) := by
  have lines : state.table.modules.entries.flatMap
      (fun entry => ImportTable.moduleLines entry.1 entry.2) =
        (written past state.table).map fun line => ImportTable.declaration line.1.texts line.2 := by
    rw [Table.entries_eq_map_keys state.table.modules .empty, lists.sources, written,
      List.flatMap_map, List.map_flatMap]
    simp only [ImportTable.moduleLines_eq, List.map_map]
    rfl
  rw [← lines]
  exact if_pos rfl

theorem Lists.areNames (lists : Lists past state) {letters : NameLetters}
    (exports : ∀ entry ∈ given past,
      ImportTable.isNamed entry.symbol = true → letters.IsName entry.symbol) :
    ∀ line ∈ written past state.table, line.1.AreNames letters := by
  intro line member
  obtain ⟨source, _, inSource⟩ := List.mem_flatMap.mp member
  obtain ⟨clauses, inside, rfl⟩ := List.mem_map.mp inSource
  refine ImportTable.areNames_declared ?_ ?_ clauses inside
  · rintro ⟨symbol, name⟩ entry
    rw [lists.symbols] at entry
    exact .of_isValid (lists.valid _ (mem_symbolsOf.mp entry))
  · rintro ⟨symbol, name⟩ entry
    rw [lists.symbols] at entry
    exact exports _ (mem_symbolsOf.mp entry)

/-- The header of a table that any requests have built is read as the imports they were given: source
    by source in the order of first imports, each symbol once. Named symbols have to be names. -/
theorem readHeader_render (letters : NameLetters) (scope : Scope) (requests : List ImportRequest)
    (exports : ∀ entry ∈ given ((start scope).history requests),
      ImportTable.isNamed entry.symbol = true → letters.IsName entry.symbol) :
    let history := (start scope).history requests
    let table := ((start scope).after requests).table
    (∀ source symbol name, table.localName? source symbol = some name ↔
      ⟨source, symbol, name⟩ ∈ given history) ∧
    ∃ header groups, table.freeze.render = .ok header ∧
      letters.readHeader header = some groups.flatten ∧
      List.Forall₂ (fun source => ImportDeclaration.Tell source (symbolsOf history source))
        (sources history) groups := by
  intro history table
  have lists : Lists history ((start scope).after requests) := lists_run scope requests
  refine ⟨fun _ _ _ => (tracks_run scope requests).aliases, _, (sources history).map fun source =>
    (ImportTable.declared ((table.modules.get? source).getD .empty)).map (⟨·, Text.joined source⟩),
    lists.render, ?_, ?_⟩
  · rw [ImportTable.readHeader_intercalate (lists.areNames exports), written, List.map_flatMap]
    simp only [List.map_map]
    rfl
  · rw [List.forall₂_map_right_iff, List.forall₂_same]
    intro source isSource
    rw [← lists.symbols]
    refine ImportTable.tell_declared source ?_
    obtain ⟨entry, member, rfl⟩ := List.mem_map.mp (List.mem_eraseDups.mp isSource)
    rw [lists.symbols]
    exact List.ne_nil_of_mem (mem_symbolsOf.mpr member)

/-- Two sources, one of them with all kinds of symbols, and a name that is taken before. -/
def mixed : List ImportRequest :=
  [.add "react" "default" (some "React"), .add "lib" "*" (some "lib"), .reserve "useState",
    .add "lib" "helper" none, .add "lib" "default" (some "Lib"), .add "react" "useState" none,
    .add "lib" "helper" (some "other")]

theorem readHeader_render_mixed :
    let history := (start .empty).history mixed
    (∀ entry ∈ given history,
      ImportTable.isNamed entry.symbol = true → NameLetters.ascii.IsName entry.symbol) ∧
    ∃ header groups, ((start .empty).after mixed).table.freeze.render = .ok header ∧
      NameLetters.ascii.readHeader header = some groups.flatten ∧
      List.Forall₂ (fun source => ImportDeclaration.Tell source (symbolsOf history source))
        (sources history) groups := by
  have exports : ∀ entry ∈ given ((start .empty).history mixed),
      ImportTable.isNamed entry.symbol = true → NameLetters.ascii.IsName entry.symbol := by
    decide
  exact ⟨exports, (readHeader_render .ascii .empty mixed exports).2⟩

end ImportState

end PageCompiler
