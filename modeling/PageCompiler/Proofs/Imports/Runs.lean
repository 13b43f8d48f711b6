/-
  An import table in use: any sequence of additions, freezes, renderings and names taken directly
  in the scope, refused requests included.

  `ImportState.Step` says once what each request can do. Everything else is an invariant of steps:
  the table holds the imports that were answered (`Tracks.aliases`), their aliases differ and are
  taken in the scope, and it is frozen once a freeze was asked for.
-/
import PageCompiler.Proofs.FreshName
import PageCompiler.Proofs.Rendering

namespace PageCompiler

/-- A use of an import table, or of its scope past the table. -/
inductive ImportRequest where
  | add (source symbol : Text) (suggestion : Option Text)
  | freeze
  | render
  | reserve (suggestion : Text)
deriving DecidableEq

inductive ImportAnswer where
  | name (name : Text)
  | header (text : Text)
  | done
  | refused (misuse : ImportMisuse)
deriving DecidableEq

/-- A table and the scope its aliases come from. -/
structure ImportState where
  table : ImportTable
  scope : Scope
deriving DecidableEq

/-- An import and its alias. -/
structure ImportEntry where
  source : Text
  symbol : Text
  name : Text
deriving DecidableEq

namespace ImportState

def start (scope : Scope) : ImportState := ⟨.empty, scope⟩

def answer (state : ImportState) : ImportRequest → ImportAnswer × ImportState
  | .add source symbol suggestion =>
      match state.table.add state.scope source symbol suggestion with
      | .ok (name, table, scope) => (.name name, ⟨table, scope⟩)
      | .error misuse => (.refused misuse, state)
  | .freeze => (.done, { state with table := state.table.freeze })
  | .render =>
      match state.table.render with
      | .ok text => (.header text, state)
      | .error misuse => (.refused misuse, state)
  | .reserve suggestion =>
      let (name, scope) := state.scope.allocate suggestion
      (.name name, { state with scope })

/-- The state after the requests, one after the other. -/
def after (state : ImportState) : List ImportRequest → ImportState
  | [] => state
  | request :: rest => (state.answer request).2.after rest

/-- The requests with their answers. -/
def history (state : ImportState) : List ImportRequest → List (ImportRequest × ImportAnswer)
  | [] => []
  | request :: rest => (request, (state.answer request).1) :: (state.answer request).2.history rest

/-- The import that an answered addition gives. -/
def granted? : ImportRequest × ImportAnswer → Option ImportEntry
  | (.add source symbol _, .name name) => some ⟨source, symbol, name⟩
  | _ => none

/-- The imports that were given, an import once for every addition that asked for it. -/
def given (history : List (ImportRequest × ImportAnswer)) : List ImportEntry :=
  history.filterMap granted?

/-- The alias that the first addition of an import was answered with. -/
def firstAlias? (history : List (ImportRequest × ImportAnswer)) (source symbol : Text) :
    Option Text :=
  ((given history).find? fun entry => entry.source = source && entry.symbol = symbol).map (·.name)

/-- The state with one more import, under a name that is taken for it. -/
def enter (state : ImportState) (source symbol name : Text) : ImportState :=
  ⟨state.table.enter source symbol name, ⟨state.scope.names ++ [name]⟩⟩

end ImportState

open ImportState

/-! ## What one request does -/

/-- What a request may do to a state and be answered with. -/
inductive ImportState.Step (state : ImportState) :
    ImportRequest → ImportAnswer → ImportState → Prop
  | known {source symbol suggestion name} :
      state.table.frozen = false → state.table.localName? source symbol = some name →
      Step state (.add source symbol suggestion) (.name name) state
  | entered {source symbol suggestion wanted name} :
      state.table.frozen = false → state.table.localName? source symbol = none →
      name = freshName state.scope.names wanted →
      Step state (.add source symbol suggestion) (.name name) (state.enter source symbol name)
  | addRefused {source symbol suggestion} :
      state.table.frozen = true →
      Step state (.add source symbol suggestion) (.refused (.addAfterFreeze source symbol)) state
  | freeze : Step state .freeze .done { state with table := state.table.freeze }
  | rendered {text} :
      state.table.frozen = true → state.table.render = .ok text →
      Step state .render (.header text) state
  | renderRefused :
      state.table.frozen = false → Step state .render (.refused .renderBeforeFreeze) state
  | reserved {suggestion name} :
      name = freshName state.scope.names suggestion →
      Step state (.reserve suggestion) (.name name)
        { state with scope := ⟨state.scope.names ++ [name]⟩ }

namespace ImportTable

variable {table : ImportTable} {source symbol name : Text}

theorem add_of_frozen (frozen : table.frozen = true) (scope : Scope) (suggestion : Option Text) :
    table.add scope source symbol suggestion = .error (.addAfterFreeze source symbol) := by
  unfold add
  rw [if_pos frozen]

theorem add_of_known (unfrozen : table.frozen = false)
    (known : table.localName? source symbol = some name) (scope : Scope)
    (suggestion : Option Text) :
    table.add scope source symbol suggestion = .ok (name, table, scope) := by
  unfold add
  rw [if_neg (by simp [unfrozen]), known]

theorem add_of_absent (unfrozen : table.frozen = false)
    (absent : table.localName? source symbol = none) (scope : Scope) (suggestion : Option Text) :
    ∃ wanted name, name = freshName scope.names wanted ∧
      table.add scope source symbol suggestion =
        .ok (name, table.enter source symbol name, ⟨scope.names ++ [name]⟩) := by
  unfold add
  rw [if_neg (by simp [unfrozen]), absent]
  exact ⟨_, _, rfl, rfl⟩

theorem exists_render (frozen : table.frozen = true) : ∃ text, table.render = .ok text :=
  ⟨_, if_pos frozen⟩

theorem render_of_unfrozen (unfrozen : table.frozen = false) :
    table.render = .error .renderBeforeFreeze := by
  unfold render
  rw [if_neg (by simp [unfrozen])]

end ImportTable

namespace ImportState

variable {state next : ImportState} {request : ImportRequest} {answered : ImportAnswer}
  {source symbol otherSource otherSymbol name : Text} {past : List (ImportRequest × ImportAnswer)}

/-- Every request makes a step. -/
theorem step_answer (state : ImportState) (request : ImportRequest) :
    Step state request (state.answer request).1 (state.answer request).2 := by
  cases request with
  | add source symbol suggestion =>
      by_cases frozen : state.table.frozen = true
      · simp only [answer, ImportTable.add_of_frozen frozen]
        exact .addRefused frozen
      · rw [Bool.not_eq_true] at frozen
        cases known : state.table.localName? source symbol with
        | some name =>
            simp only [answer, ImportTable.add_of_known frozen known]
            exact .known frozen known
        | none =>
            obtain ⟨wanted, name, fresh, added⟩ :=
              ImportTable.add_of_absent frozen known state.scope suggestion
            simp only [answer, added]
            exact .entered frozen known fresh
  | freeze => exact .freeze
  | render =>
      by_cases frozen : state.table.frozen = true
      · obtain ⟨text, isText⟩ := ImportTable.exists_render frozen
        simp only [answer, isText]
        exact .rendered frozen isText
      · rw [Bool.not_eq_true] at frozen
        simp only [answer, ImportTable.render_of_unfrozen frozen]
        exact .renderRefused frozen
  | reserve suggestion => exact .reserved rfl

theorem Step.frozen_iff (step : Step state request answered next) :
    next.table.frozen = true ↔ state.table.frozen = true ∨ request = .freeze := by
  cases step <;> simp [enter, ImportTable.enter, ImportTable.freeze]

/-- A step gives an import its alias, or leaves the aliases as they are. -/
theorem Step.localName?_iff (step : Step state request answered next) :
    next.table.localName? source symbol = some name ↔
      state.table.localName? source symbol = some name ∨
        granted? (request, answered) = some ⟨source, symbol, name⟩ := by
  cases step with
  | known _ known =>
      constructor
      · exact .inl
      · rintro (before | same)
        · exact before
        · cases same
          exact known
  | @entered newSource newSymbol _ _ newName _ absent _ =>
      show (state.table.enter newSource newSymbol newName).localName? source symbol = _ ↔ _
      rw [ImportTable.localName?_enter]
      by_cases same : source = newSource ∧ symbol = newSymbol
      · obtain ⟨rfl, rfl⟩ := same
        simp [granted?, absent]
      · rw [if_neg same]
        simp only [granted?, Option.some.injEq, ImportEntry.mk.injEq, iff_self_or]
        rintro ⟨rfl, rfl, _⟩
        exact absurd ⟨rfl, rfl⟩ same
  | addRefused | freeze | rendered | renderRefused | reserved =>
      simp [granted?, ImportTable.freeze, ImportTable.localName?]

/-- An alias that is given was the import's, or was free. -/
theorem Step.known_or_free (step : Step state request answered next)
    (isEntry : granted? (request, answered) = some ⟨source, symbol, name⟩) :
    state.table.localName? source symbol = some name ∨ name ∉ state.scope.names := by
  cases step with
  | known _ known => cases isEntry; exact .inl known
  | entered _ _ fresh =>
      cases isEntry
      rw [fresh]
      exact .inr (freshName_not_mem _ _)
  | addRefused | freeze | rendered | renderRefused | reserved => cases isEntry

/-- A name is taken by a step that answers with it, and by no other. -/
theorem Step.mem_names_iff (step : Step state request answered next)
    (taken : ∀ {source symbol name}, state.table.localName? source symbol = some name →
      name ∈ state.scope.names) :
    name ∈ next.scope.names ↔ name ∈ state.scope.names ∨ answered = .name name := by
  cases step with
  | known _ known =>
      constructor
      · exact .inl
      · rintro (before | same)
        · exact before
        · cases same
          exact taken known
  | entered | reserved => simp [enter, eq_comm]
  | addRefused | freeze | rendered | renderRefused => simp

/-! ## What a run keeps -/

/-- What every step keeps, a run of requests keeps. -/
theorem run_induction (holds : List (ImportRequest × ImportAnswer) → ImportState → Prop)
    (keep : ∀ {past state request answered next}, holds past state →
      Step state request answered next → holds (past ++ [(request, answered)]) next)
    (requests : List ImportRequest) (before : holds past state) :
    holds (past ++ state.history requests) (state.after requests) := by
  induction requests generalizing past state with
  | nil => simpa [history, after] using before
  | cons request rest ih =>
      have reached := ih (keep before (step_answer state request))
      rwa [List.append_assoc] at reached

/-- The same for what is said of the state alone. -/
theorem run_keeps (holds : ImportState → Prop)
    (keep : ∀ {state request answered next}, holds state → Step state request answered next →
      holds next) (requests : List ImportRequest) (before : holds state) :
    holds (state.after requests) :=
  @run_induction state [] (fun _ => holds) keep requests before

theorem history_requests (state : ImportState) (requests : List ImportRequest) :
    (state.history requests).map Prod.fst = requests := by
  induction requests generalizing state with
  | nil => rfl
  | cons request rest ih => rw [history, List.map_cons, ih]

theorem given_append (past : List (ImportRequest × ImportAnswer))
    (latest : ImportRequest × ImportAnswer) :
    given (past ++ [latest]) = given past ++ (granted? latest).toList := by
  unfold given
  rw [List.filterMap_append]
  cases found : granted? latest with
  | none => rw [List.filterMap_cons_none found, List.filterMap_nil]; rfl
  | some entry => rw [List.filterMap_cons_some found, List.filterMap_nil]; rfl

theorem mem_given_append {entry : ImportEntry} {latest : ImportRequest × ImportAnswer} :
    entry ∈ given (past ++ [latest]) ↔ entry ∈ given past ∨ granted? latest = some entry := by
  rw [given_append, List.mem_append, Option.mem_toList]

/-- What a state knows of its past. The scope was `scope` at the start. -/
structure Tracks (scope : Scope) (past : List (ImportRequest × ImportAnswer))
    (state : ImportState) : Prop where
  frozen : state.table.frozen = true ↔ .freeze ∈ past.map Prod.fst
  aliases : ∀ {source symbol name},
    state.table.localName? source symbol = some name ↔ ⟨source, symbol, name⟩ ∈ given past
  names : ∀ {name},
    name ∈ state.scope.names ↔ name ∈ scope.names ∨ .name name ∈ past.map Prod.snd
  distinct : ∀ {source symbol otherSource otherSymbol name},
    state.table.localName? source symbol = some name →
      state.table.localName? otherSource otherSymbol = some name →
        source = otherSource ∧ symbol = otherSymbol

variable {scope : Scope}

theorem tracks_start (scope : Scope) : Tracks scope [] (start scope) where
  frozen := by simp [start, ImportTable.empty]
  aliases := by simp [start, ImportTable.empty, ImportTable.localName?, given]
  names := by simp [start]
  distinct := by simp [start, ImportTable.empty, ImportTable.localName?]

theorem Tracks.taken (tracks : Tracks scope past state)
    (known : state.table.localName? source symbol = some name) : name ∈ state.scope.names := by
  refine tracks.names.mpr (.inr ?_)
  obtain ⟨⟨request, answered⟩, member, isEntry⟩ :=
    List.mem_filterMap.mp (tracks.aliases.mp known)
  refine List.mem_map.mpr ⟨(request, answered), member, ?_⟩
  unfold granted? at isEntry
  split at isEntry
  · next same =>
      cases isEntry
      cases same
      rfl
  · cases isEntry

/-- A step gives no import the alias of another one. -/
theorem Tracks.apart (tracks : Tracks scope past state) (step : Step state request answered next)
    (before : state.table.localName? source symbol = some name)
    (isEntry : granted? (request, answered) = some ⟨otherSource, otherSymbol, name⟩) :
    source = otherSource ∧ symbol = otherSymbol := by
  rcases step.known_or_free isEntry with known | free
  · exact tracks.distinct before known
  · exact absurd (tracks.taken before) free

theorem Tracks.step (tracks : Tracks scope past state) (step : Step state request answered next) :
    Tracks scope (past ++ [(request, answered)]) next where
  frozen := by
    rw [step.frozen_iff, tracks.frozen]
    simp [eq_comm]
  aliases := by
    intro source symbol name
    rw [step.localName?_iff, tracks.aliases, mem_given_append]
  names := by
    intro name
    rw [step.mem_names_iff tracks.taken, tracks.names]
    simp [or_assoc, eq_comm]
  distinct := by
    intro source symbol otherSource otherSymbol name isAlias isOther
    rw [step.localName?_iff] at isAlias isOther
    rcases isAlias with before | isNew <;> rcases isOther with otherBefore | otherIsNew
    · exact tracks.distinct before otherBefore
    · exact tracks.apart step before otherIsNew
    · exact (tracks.apart step otherBefore isNew).imp Eq.symm Eq.symm
    · rw [isNew] at otherIsNew
      cases otherIsNew
      exact ⟨rfl, rfl⟩

theorem tracks_run (scope : Scope) (requests : List ImportRequest) :
    Tracks scope ((start scope).history requests) ((start scope).after requests) :=
  run_induction (Tracks scope) Tracks.step requests (tracks_start scope)

theorem Tracks.firstAlias?_eq (tracks : Tracks scope past state) (source symbol : Text) :
    firstAlias? past source symbol = state.table.localName? source symbol := by
  unfold firstAlias?
  cases found : (given past).find? fun entry => entry.source = source && entry.symbol = symbol with
  | some entry =>
      have isImport := List.find?_some found
      simp only [Bool.and_eq_true, decide_eq_true_eq] at isImport
      obtain ⟨rfl, rfl⟩ := isImport
      exact (tracks.aliases.mpr (List.mem_of_find?_eq_some found)).symm
  | none =>
      cases known : state.table.localName? source symbol with
      | none => rfl
      | some name =>
          have missed := List.find?_eq_none.mp found _ (tracks.aliases.mp known)
          simp at missed

/-- An import keeps its alias, whatever is requested later. -/
theorem localName?_after (known : state.table.localName? source symbol = some name)
    (later : List ImportRequest) :
    (state.after later).table.localName? source symbol = some name :=
  run_keeps (fun state => state.table.localName? source symbol = some name)
    (fun before step => step.localName?_iff.mpr (.inl before)) later known

/-- A frozen table stays as it is. -/
theorem table_after_of_frozen (frozen : state.table.frozen = true) (later : List ImportRequest) :
    (state.after later).table = state.table := by
  refine run_keeps (fun next => next.table = state.table) ?_ later rfl
  intro before request answered next same step
  rw [← same] at frozen
  cases step with
  | known unfrozen _ | entered unfrozen _ _ | renderRefused unfrozen =>
      rw [frozen] at unfrozen
      cases unfrozen
  | freeze =>
      rw [← same]
      unfold ImportTable.freeze
      rw [← frozen]
  | addRefused | rendered | reserved => exact same

theorem Tracks.name_eq_iff (tracks : Tracks scope past state) {first second : ImportEntry}
    (isFirst : first ∈ given past) (isSecond : second ∈ given past) :
    first.name = second.name ↔ first.source = second.source ∧ first.symbol = second.symbol := by
  have firstName := tracks.aliases.mpr isFirst
  have secondName := tracks.aliases.mpr isSecond
  constructor
  · intro same
    rw [same] at firstName
    exact tracks.distinct firstName secondName
  · rintro ⟨sameSource, sameSymbol⟩
    rw [sameSource, sameSymbol, secondName] at firstName
    exact (Option.some.inj firstName).symm

theorem Tracks.answer_add (tracks : Tracks scope past state) (unfrozen : state.table.frozen = false)
    (suggestion : Option Text) :
    match firstAlias? past source symbol with
    | some name => state.answer (.add source symbol suggestion) = (.name name, state)
    | none => ∃ name ∉ state.scope.names,
        state.answer (.add source symbol suggestion) =
          (.name name, state.enter source symbol name) := by
  rw [tracks.firstAlias?_eq]
  cases known : state.table.localName? source symbol with
  | some name => simp only [answer, ImportTable.add_of_known unfrozen known]
  | none =>
      obtain ⟨wanted, name, rfl, added⟩ :=
        ImportTable.add_of_absent unfrozen known state.scope suggestion
      refine ⟨_, freshName_not_mem state.scope.names wanted, ?_⟩
      simp only [answer, added]
      rfl

theorem exists_answer_render (frozen : state.table.frozen = true) :
    ∃ text, ∀ later, (state.after later).answer .render = (.header text, state.after later) := by
  obtain ⟨text, isText⟩ := ImportTable.exists_render frozen
  refine ⟨text, fun later => ?_⟩
  simp only [answer, table_after_of_frozen frozen, isText]

/-- What a table does after any requests, over any scope. An import gets one alias, which nothing
    else in the scope has. Before the freeze an addition answers with the alias of the import and
    changes nothing, or takes a free name for it, and rendering is refused. After the freeze additions
    are refused and rendering always gives the same text. -/
theorem run_protocol (scope : Scope) (requests : List ImportRequest) :
    let history := (start scope).history requests
    let state := (start scope).after requests
    (∀ name, name ∈ state.scope.names ↔ name ∈ scope.names ∨ .name name ∈ history.map Prod.snd) ∧
    (∀ first ∈ given history, ∀ second ∈ given history,
      first.name = second.name ↔ first.source = second.source ∧ first.symbol = second.symbol) ∧
    (∀ entry ∈ given history, ∀ later,
      (state.after later).table.localName? entry.source entry.symbol = some entry.name) ∧
    if .freeze ∈ requests then
      (∀ source symbol suggestion, state.answer (.add source symbol suggestion) =
        (.refused (.addAfterFreeze source symbol), state)) ∧
      ∃ text, ∀ later, (state.after later).answer .render = (.header text, state.after later)
    else
      (∀ source symbol suggestion,
        match firstAlias? history source symbol with
        | some name => state.answer (.add source symbol suggestion) = (.name name, state)
        | none => ∃ name ∉ state.scope.names,
            state.answer (.add source symbol suggestion) =
              (.name name, state.enter source symbol name)) ∧
      state.answer .render = (.refused .renderBeforeFreeze, state) := by
  intro history state
  have tracks : Tracks scope history state := tracks_run scope requests
  refine ⟨fun _ => tracks.names, fun first isFirst second isSecond =>
    tracks.name_eq_iff isFirst isSecond, fun entry member later =>
    localName?_after (tracks.aliases.mpr member) later, ?_⟩
  have frozen := tracks.frozen
  rw [history_requests] at frozen
  split
  · next asked =>
      have isFrozen := frozen.mpr asked
      refine ⟨fun source symbol suggestion => ?_, exists_answer_render isFrozen⟩
      simp only [answer, ImportTable.add_of_frozen isFrozen]
  · next notAsked =>
      have unfrozen : state.table.frozen = false :=
        Bool.eq_false_iff.mpr fun isFrozen => notAsked (frozen.mp isFrozen)
      refine ⟨fun source symbol => tracks.answer_add unfrozen, ?_⟩
      simp only [answer, ImportTable.render_of_unfrozen unfrozen]

end ImportState

end PageCompiler
