/-
  Collecting a reference ends: either in tables in which the reference has all it needs, or because
  some reached node does not conform.

  A derived node is entered into the tables before its own references are collected, so a reference
  that leads back to it is met while it is still open. What a run promises is therefore about the
  derived nodes that are new at its end: all references of these are handled (`Grows`). Each level of
  nesting makes one more of finitely many derived nodes known, so the bound on nesting is not met.
-/
import PageCompiler.Proofs.Collection.Move
import PageCompiler.Proofs.Ending

namespace PageCompiler

open Collection DerivedOrder

/-- The failures of collection: a template that cannot be read, or a reference to an element without
    its component, without that argument, or without a report of its changes. -/
inductive Failure.OfReference : Failure → Prop
  | template (error : TemplateError) : OfReference (.template error)
  | componentMissing (nodeId : Text) : OfReference (.componentMissing nodeId)
  | argumentMissing (nodeName prop : Text) : OfReference (.argumentMissing nodeName prop)
  | argumentUncontrolled (nodeName prop : Text) : OfReference (.argumentUncontrolled nodeName prop)

theorem PropValue.ofReference_of_references {value : PropValue} {failure : Failure}
    (unreadable : value.references = .error failure) : failure.OfReference := by
  unfold PropValue.references at unreadable
  split at unreadable
  · cases unreadable
  · split at unreadable
    · cases unreadable
    · cases unreadable
      exact .template _
  · cases unreadable

/-- All references of the node can be read, and they have the property. -/
def Node.EachReference (node : Node) (holds : Text → Prop) : Prop :=
  ∀ prop ∈ node.props.values, ∀ value, prop = some value →
    ∃ references, value.references = .ok references ∧ ∀ reference ∈ references, holds reference

/-- Collecting each reference of a node in turn, if that makes something true of the reference that
    stays true while the tables grow. -/
theorem Collection.ends_eachReference {collect : Text → Compile Unit} {node : Node} {tables : Tables}
    {bad : Failure → Prop} (ready : Tables → Prop) (grows : Tables → Tables → Prop)
    (holds : Text → Tables → Prop) (refl : ∀ tables, grows tables tables)
    (trans : ∀ {first second third}, grows first second → grows second third → grows first third)
    (staysReady : ∀ {first second}, ready first → grows first second → ready second)
    (staysTrue : ∀ {reference first second}, holds reference first → grows first second →
      holds reference second)
    (each : ∀ reference tables, node.Refers reference → ready tables →
      (collect reference).Ends tables (fun _ after => grows tables after ∧ holds reference after) bad)
    (unreadable : ∀ value failure, some value ∈ node.props.values →
      value.references = .error failure → bad failure)
    (start : ready tables) :
    (collectProps collect node).Ends tables
      (fun _ after => grows tables after ∧ node.EachReference fun reference => holds reference after)
      bad := by
  refine Compile.ends_forM ready grows (fun (prop : Option PropValue) tables =>
    ∀ value, prop = some value → ∃ references, value.references = .ok references ∧
      ∀ reference ∈ references, holds reference tables) refl trans staysReady ?_ ?_ start
  · intro prop first second all grown value same
    obtain ⟨references, read, held⟩ := all value same
    exact ⟨references, read, fun reference inside => staysTrue (held reference inside) grown⟩
  · intro prop member middle middleReady
    cases prop with
    | none => exact ⟨refl middle, fun _ impossible => nomatch impossible⟩
    | some value =>
        rw [Compile.ends_bind, Compile.ends_ofExcept]
        split
        · next references read =>
            refine (Compile.ends_forM ready grows holds refl trans staysReady staysTrue
              (fun reference inside tables => each reference tables
                ⟨value, references, member, read, inside⟩) middleReady).imp ?_ fun _ failed => failed
            rintro _ after ⟨grown, held⟩
            exact ⟨grown, fun _ same => by cases same; exact ⟨references, read, held⟩⟩
        · next failure isError => exact unreadable value failure member isError

namespace Environment

variable {env : Environment} {before after tables : Tables} {reference : Text}
  {owner node target : Node} {fuel : Nat}

/-- A reference in a prop of `owner` has all it needs. -/
structure Handled (env : Environment) (tables : Tables) (owner : Node) (reference : Text) :
    Prop where
  accepted : ∀ {element}, env.target? reference = some element → element.isElement = true →
    ∃ argument,
      controlledArgument env element ((Reference.path reference).headD []) = .ok argument
  hasAccessor : ∀ {target}, env.target? reference = some target → target.isPage = false →
    env.HasAccessor tables reference
  depends : ∀ {target}, env.target? reference = some target → target.isDerived = true →
    owner.isDerived = true → target.id ∈ successors tables.dependencies owner.id

/-- The references of a prop can be read and are handled. -/
def PropHandled (env : Environment) (tables : Tables) (node : Node) (prop : Option PropValue) :
    Prop :=
  ∀ value, prop = some value → ∃ references, value.references = .ok references ∧
    ∀ reference ∈ references, env.Handled tables node reference

/-- All references of a node are handled. -/
def Covered (env : Environment) (tables : Tables) (node : Node) : Prop :=
  ∀ prop ∈ node.props.values, env.PropHandled tables node prop

/-- Moves after which all references of new derived nodes are handled. -/
structure Grows (env : Environment) (before after : Tables) : Prop where
  collects : env.Collects before after
  covered : ∀ {id identifier node}, before.derived.get? id = none →
    after.derived.get? id = some identifier → env.document.get? id = some node →
    env.Covered after node

/-- The tables are justified and leave room for all derived nodes that are still unknown. -/
structure Ready (env : Environment) (fuel : Nat) (tables : Tables) : Prop where
  justified : env.Justified tables
  room : env.document.size < fuel + tables.derived.size

theorem Handled.mono (handled : env.Handled before owner reference)
    (moves : env.Collects before after) : env.Handled after owner reference where
  accepted := handled.accepted
  hasAccessor named notPage := moves.hasAccessor (handled.hasAccessor named notPage)
  depends named isDerived ownerDerived :=
    moves.extends.dependencies (handled.depends named isDerived ownerDerived)

/-- A reference to nothing needs nothing. -/
theorem Handled.of_unknown (unknown : env.target? reference = none) :
    env.Handled tables owner reference := by
  refine ⟨?_, ?_, ?_⟩
  all_goals
    intro target named
    rw [unknown] at named
    cases named

theorem Handled.of_page (named : env.target? reference = some target)
    (isPage : target.isPage = true) : env.Handled tables owner reference := by
  refine ⟨?_, ?_, ?_⟩
  · intro other found isElement
    cases named.symm.trans found
    rw [Node.isPage_eq_false_of_isElement isElement] at isPage
    cases isPage
  · intro other found notPage
    cases named.symm.trans found
    rw [notPage] at isPage
    cases isPage
  · intro other found isDerived
    cases named.symm.trans found
    rw [Node.isPage_eq_false_of_isDerived isDerived] at isPage
    cases isPage

theorem Handled.of_element {argument : Argument} (named : env.target? reference = some target)
    (isElement : target.isElement = true)
    (accepted : controlledArgument env target ((Reference.path reference).headD []) = .ok argument)
    (has : env.HasAccessor tables reference) : env.Handled tables owner reference := by
  refine ⟨?_, fun _ _ => has, ?_⟩
  · intro other found _
    cases named.symm.trans found
    exact ⟨argument, accepted⟩
  · intro other found isDerived
    cases named.symm.trans found
    rw [Node.isDerived_eq_false_of_isElement isElement] at isDerived
    cases isDerived

theorem Handled.of_derived (named : env.target? reference = some target)
    (isDerived : target.isDerived = true) (has : env.HasAccessor tables reference)
    (depends : owner.isDerived = true → target.id ∈ successors tables.dependencies owner.id) :
    env.Handled tables owner reference := by
  refine ⟨?_, fun _ _ => has, ?_⟩
  · intro other found isElement
    cases named.symm.trans found
    rw [Node.isDerived_eq_false_of_isElement isElement] at isDerived
    cases isDerived
  · intro other found _
    cases named.symm.trans found
    exact depends

theorem PropHandled.mono {prop : Option PropValue} (handled : env.PropHandled before node prop)
    (moves : env.Collects before after) : env.PropHandled after node prop := by
  intro value same
  obtain ⟨references, read, all⟩ := handled value same
  exact ⟨references, read, fun reference inside => (all reference inside).mono moves⟩

theorem Covered.mono (covered : env.Covered before node) (moves : env.Collects before after) :
    env.Covered after node :=
  fun prop member => (covered prop member).mono moves

theorem Grows.refl (tables : Tables) : env.Grows tables tables where
  collects := .refl
  covered absent found _ := by
    rw [absent] at found
    cases found

theorem Grows.trans {first second third : Tables} (earlier : env.Grows first second)
    (later : env.Grows second third) : env.Grows first third where
  collects := Relation.ReflTransGen.trans earlier.collects later.collects
  covered {id identifier node} absent found stored := by
    cases known : second.derived.get? id with
    | none => exact later.covered known found stored
    | some name => exact (earlier.covered absent known stored).mono later.collects

/-- A move that adds no derived node. -/
theorem Grows.of_move (move : env.CollectMove before after)
    (same : after.derived = before.derived) : env.Grows before after where
  collects := .single move
  covered absent found _ := by
    rw [same, absent] at found
    cases found

theorem derived_size_le (extended : before.Extends after) :
    before.derived.size ≤ after.derived.size := by
  have inside : before.derived.keys ⊆ after.derived.keys := by
    intro id member
    obtain ⟨identifier, found⟩ := Table.mem_keys_iff.mp member
    exact Table.mem_keys_iff.mpr ⟨identifier, extended.derived found⟩
  simpa [Table.size, Table.keys] using before.derived.distinct.length_le_of_subset inside

theorem Ready.mono (ready : env.Ready fuel before) (grown : env.Grows before after) :
    env.Ready fuel after where
  justified := grown.collects.justified ready.justified
  room := by
    have larger := derived_size_le grown.collects.extends
    have room := ready.room
    omega

/-- Derived nodes in the tables are nodes of the document, so there are not more of them. -/
theorem Justified.derived_size_le (consistent : env.Consistent) (justified : env.Justified tables) :
    tables.derived.size ≤ env.document.size := by
  have inside : tables.derived.keys ⊆ env.document.keys := by
    intro id member
    obtain ⟨identifier, found⟩ := Table.mem_keys_iff.mp member
    obtain ⟨reference, target, ⟨_, _, _, named⟩, _, rfl⟩ := justified.derived found
    exact Table.mem_keys_iff.mpr ⟨target, consistent.get?_target named⟩
  simpa [Table.size, Table.keys] using tables.derived.distinct.length_le_of_subset inside

theorem not_ready_zero (consistent : env.Consistent) : ¬ env.Ready 0 tables := by
  intro ready
  have few := ready.justified.derived_size_le consistent
  have room := ready.room
  omega

theorem ofReference_of_controlledArgument {prop : Text} {failure : Failure}
    (refused : controlledArgument env node prop = .error failure) : failure.OfReference := by
  unfold controlledArgument at refused
  split at refused
  · cases refused
    exact .componentMissing _
  · split at refused
    · cases refused
      exact .argumentMissing _ _
    · split at refused
      · cases refused
      · cases refused
        exact .argumentUncontrolled _ _

/-- Collection fails like this, and only if some reached node does not conform. -/
def Refuses (env : Environment) (failure : Failure) : Prop :=
  failure.OfReference ∧ ¬ (env.Conforms ∧ env.NamesProps)

/-- A prop whose references cannot be read breaks the rules. -/
theorem Conforms.references (conforms : env.Conforms) (reached : env.Reached node)
    {value : PropValue} (member : some value ∈ node.props.values) :
    ∃ references, value.references = .ok references := by
  cases value with
  | const _ => exact ⟨_, rfl⟩
  | binding _ => exact ⟨_, rfl⟩
  | unrecognized _ _ => exact ⟨_, rfl⟩
  | template text format =>
      obtain ⟨parts, parsed⟩ := conforms.parses node reached text format member
      exact ⟨Template.references parts, by simp [PropValue.references, parsed]⟩

theorem Conforms.accepts (conforms : env.Conforms) (names : env.NamesProps)
    (needs : env.Needs reference target) (isElement : target.isElement = true) :
    ∃ argument,
      controlledArgument env target ((Reference.path reference).headD []) = .ok argument := by
  obtain ⟨argument, binds⟩ := conforms.binds reference target needs isElement
  exact ⟨argument,
    controlledArgument_eq_ok_iff.mpr ⟨names reference target needs isElement, binds⟩⟩

/-- A cell under the key of an element's prop is the cell of that prop. -/
theorem Justified.accepted (consistent : env.Consistent) (justified : env.Justified tables)
    (named : env.target? reference = some target) {cell : Cell}
    (known : tables.cell? target.id ((Reference.path reference).headD []) = some cell) :
    ∃ argument,
      controlledArgument env target ((Reference.path reference).headD []) = .ok argument := by
  obtain ⟨other, element, argument, ⟨_, _, _, named'⟩, _, isProp, accepted, isId, sameKey, _⟩ :=
    justified.cells known
  obtain ⟨sameId, sameProp⟩ := cellKey_inj (Reference.dot_not_mem_prop reference)
    (isProp ▸ Reference.dot_not_mem_prop other) sameKey
  have same : target = element := consistent.target_eq named named' (sameId.trans isId)
  subst same
  rw [sameProp]
  exact ⟨argument, accepted⟩

/-- A cell that is known is taken as it is; for a new one the argument is checked. -/
theorem ends_readElement (needs : env.Needs reference target) (isElement : target.isElement = true) :
    (elementAccessor env target (Reference.path reference)).Ends tables
      (fun code after => env.Grows tables after ∧ env.Reads after reference code ∧
        ((∃ cell, tables.cell? target.id ((Reference.path reference).headD []) = some cell) ∨
          ∃ argument,
            controlledArgument env target ((Reference.path reference).headD []) = .ok argument))
      fun failure =>
        controlledArgument env target ((Reference.path reference).headD []) = .error failure := by
  have named := needs.named
  rw [elementAccessor, Compile.ends_bind, Compile.ends_get]
  cases known : tables.cell? target.id ((Reference.path reference).headD []) with
  | some cell => exact ⟨.refl tables, .element named isElement known, .inl ⟨cell, rfl⟩⟩
  | none =>
      rw [Compile.ends_bind, Compile.ends_ofExcept]
      split
      · next argument accepted =>
          rw [Compile.ends_bind, Compile.ends_addCell_of_absent known]
          intro state setter cell
          refine ⟨.of_move (.cell needs isElement rfl accepted known rfl rfl) rfl, ?_,
            .inr ⟨argument, accepted⟩⟩
          exact .element named isElement (Table.get?_insert_self tables.cells _ cell)
      · next failure refused => exact refused

theorem ends_elementAccessor (consistent : env.Consistent) (justified : env.Justified tables)
    (needs : env.Needs reference target) (isElement : target.isElement = true) :
    (elementAccessor env target (Reference.path reference)).Ends tables
      (fun code after => env.Grows tables after ∧ env.Reads after reference code ∧
        ∃ argument,
          controlledArgument env target ((Reference.path reference).headD []) = .ok argument)
      env.Refuses := by
  refine (ends_readElement needs isElement).imp ?_ fun failure refused => ?_
  · rintro code after ⟨grown, reads, ⟨cell, known⟩ | accepted⟩
    · exact ⟨grown, reads, justified.accepted consistent needs.named known⟩
    · exact ⟨grown, reads, accepted⟩
  · refine ⟨ofReference_of_controlledArgument refused, ?_⟩
    rintro ⟨conforms, names⟩
    obtain ⟨argument, accepted⟩ := conforms.accepts names needs isElement
    rw [refused] at accepted
    cases accepted

theorem ends_setAccessor {code : Text} (needs : env.Needs reference target)
    (reads : env.Reads tables reference code) :
    (Compile.setAccessor reference code).Ends tables
      (fun _ after => env.Grows tables after ∧ env.HasAccessor after reference ∧
        after.dependencies = tables.dependencies) fun _ => False := by
  refine ⟨.of_move (.accessor needs reads) rfl, ⟨code, ?_, Table.get?_insert_self _ _ _⟩, rfl⟩
  exact reads.extend (CollectMove.accessor needs reads).extends

theorem ends_addDependency (reached : env.Reached owner) (ownerDerived : owner.isDerived = true)
    (refers : owner.Refers reference) (named : env.target? reference = some target)
    (isDerived : target.isDerived = true) :
    (Compile.addDependency owner.id target.id).Ends tables
      (fun _ after => env.Grows tables after ∧ after.derived = tables.derived ∧
        target.id ∈ successors after.dependencies owner.id) fun _ => False := by
  have members : ∀ other, other ∈ (if target.id ∈ successors tables.dependencies owner.id then
        successors tables.dependencies owner.id
      else successors tables.dependencies owner.id ++ [target.id]) ↔
      other ∈ successors tables.dependencies owner.id ∨ other = target.id := by
    intro other
    split
    · next present =>
        constructor
        · exact .inl
        · rintro (known | rfl)
          · exact known
          · exact present
    · simp
  rw [Compile.addDependency, Compile.ends_modify]
  refine ⟨.of_move (.dependency ?_ members) rfl, rfl, ?_⟩
  · exact ⟨owner, reference, target, reached, ownerDerived, rfl, refers, named, isDerived, rfl⟩
  · rw [successors_insert, if_pos rfl]
    exact (members target.id).mpr (.inr rfl)

/-- The last actions for a reference to a derived node. -/
def noteRead (owner target : Node) (reference identifier : Text) : Compile Unit :=
  if owner.isDerived then do
    Compile.addDependency owner.id target.id
    Compile.setAccessor reference (accessor identifier (Reference.path reference))
  else Compile.setAccessor reference (accessor identifier (Reference.path reference))

theorem ends_noteRead {identifier : Text} (reached : env.Reached owner)
    (refers : owner.Refers reference) (named : env.target? reference = some target)
    (isDerived : target.isDerived = true)
    (known : tables.derived.get? target.id = some identifier) :
    (noteRead owner target reference identifier).Ends tables
      (fun _ after => env.Grows tables after ∧ env.HasAccessor after reference ∧
        (owner.isDerived = true → target.id ∈ successors after.dependencies owner.id))
      fun _ => False := by
  have needs : env.Needs reference target := ⟨owner, reached, refers, named⟩
  unfold noteRead
  split
  · next ownerDerived =>
      rw [Compile.ends_bind]
      refine (ends_addDependency reached ownerDerived refers named isDerived).imp ?_
        (fun _ failed => failed)
      rintro _ middle ⟨noted, sameDerived, depends⟩
      refine (ends_setAccessor needs (.derived named isDerived (sameDerived ▸ known))).imp ?_
        (fun _ failed => failed)
      rintro _ after ⟨set, has, sameDependencies⟩
      exact ⟨noted.trans set, has, fun _ => sameDependencies ▸ depends⟩
  · next notDerived =>
      refine (ends_setAccessor needs (.derived named isDerived known)).imp ?_
        (fun _ failed => failed)
      rintro _ after ⟨set, has, _⟩
      exact ⟨set, has, fun derived => absurd derived notDerived⟩

/-- Collecting each reference of a node in turn. -/
theorem ends_collectProps {collect : Text → Compile Unit} (reached : env.Reached node)
    (each : ∀ reference tables, node.Refers reference → env.Ready fuel tables →
      (collect reference).Ends tables
        (fun _ after => env.Grows tables after ∧ env.Handled after node reference)
        env.Refuses)
    (ready : env.Ready fuel tables) :
    (collectProps collect node).Ends tables
      (fun _ after => env.Grows tables after ∧ env.Covered after node)
      env.Refuses := by
  refine ends_eachReference (env.Ready fuel) env.Grows
    (fun reference tables => env.Handled tables node reference) Grows.refl Grows.trans Ready.mono
    (fun handled grown => handled.mono grown.collects) each ?_ ready
  intro value failure member unreadable
  refine ⟨PropValue.ofReference_of_references unreadable, ?_⟩
  rintro ⟨conforms, _⟩
  obtain ⟨references, read⟩ := conforms.references reached member
  rw [unreadable] at read
  cases read

/-- Collecting a reference to a derived node. -/
def collectDerived (env : Environment) (fuel : Nat) (owner target : Node) (reference : Text) :
    Compile Unit := do
  let (identifier, isNew) ← Compile.addDerived target
  if isNew then do
    collectProps (fun inner => collectReference env fuel (some target) inner) target
    noteRead owner target reference identifier
  else noteRead owner target reference identifier

theorem collectReference_of_none {owner : Option Node} (unknown : env.target? reference = none) :
    collectReference env (fuel + 1) owner reference =
      Compile.warn (.nameUnknown (Reference.name reference)) := by
  rw [collectReference]
  simp only [env.idOfName?_head, unknown, Option.map_none]
  rfl

theorem collectReference_of_some (consistent : env.Consistent)
    (named : env.target? reference = some target) :
    collectReference env (fuel + 1) (some owner) reference =
      match target.kind with
      | .page _ => Compile.warn (.pageReferenced (Reference.name reference) reference)
      | .element _ => do
          let code ← elementAccessor env target (Reference.path reference)
          Compile.setAccessor reference code
      | .derived _ => collectDerived env fuel owner target reference := by
  rw [collectReference]
  simp only [env.idOfName?_head, named, Option.map_some, consistent.node_target named,
    Compile.ofExcept, pure_bind]
  rfl

/-- What collecting a reference comes to. -/
def CollectsReference (env : Environment) (fuel : Nat) : Prop :=
  ∀ owner reference tables, env.Reached owner → owner.Refers reference → env.Ready fuel tables →
    (collectReference env fuel (some owner) reference).Ends tables
      (fun _ after => env.Grows tables after ∧ env.Handled after owner reference)
      env.Refuses

/-- The run from before a derived node got its identifier to after its references are handled. -/
theorem grows_of_opened {middle : Tables} (move : env.CollectMove before middle)
    (opened : ∀ id, id ≠ target.id → middle.derived.get? id = before.derived.get? id)
    (stored : env.document.get? target.id = some target) (grown : env.Grows middle after)
    (covered : env.Covered after target) : env.Grows before after where
  collects := Relation.ReflTransGen.head move grown.collects
  covered {id identifier node} absent found inDocument := by
    by_cases same : id = target.id
    · subst same
      rw [stored] at inDocument
      cases inDocument
      exact covered
    · exact grown.covered ((opened id same).trans absent) found inDocument

theorem ends_collectDerived (consistent : env.Consistent) (inner : env.CollectsReference fuel)
    (reached : env.Reached owner) (refers : owner.Refers reference)
    (named : env.target? reference = some target) (isDerived : target.isDerived = true)
    (ready : env.Ready (fuel + 1) tables) :
    (collectDerived env fuel owner target reference).Ends tables
      (fun _ after => env.Grows tables after ∧ env.HasAccessor after reference ∧
        (owner.isDerived = true → target.id ∈ successors after.dependencies owner.id))
      env.Refuses := by
  have needs : env.Needs reference target := ⟨owner, reached, refers, named⟩
  rw [collectDerived, Compile.ends_bind, Compile.ends_addDerived]
  split
  · next identifier known =>
      exact (ends_noteRead reached refers named isDerived known).imp (fun _ _ done => done)
        (fun _ failed => failed.elim)
  · next absent =>
      intro identifier
      have move := CollectMove.derived needs isDerived absent rfl
      -- One more derived node is known, which pays for the level of nesting.
      have opened : env.Ready fuel _ :=
        ⟨move.justified ready.justified, by
          have room := ready.room
          have larger := Table.size_insert_of_absent identifier absent
          simp only [identifier] at larger
          simp only [larger]
          omega⟩
      have targetReached : env.Reached target := .named reached refers named isDerived
      simp only [if_true]
      rw [Compile.ends_bind]
      refine (ends_collectProps targetReached
        (fun reference tables => inner target reference tables targetReached) opened).imp ?_
        (fun _ failed => failed)
      rintro _ middle ⟨grown, covered⟩
      have known := grown.collects.extends.derived
        (Table.get?_insert_self tables.derived target.id identifier)
      refine (ends_noteRead reached refers named isDerived known).imp ?_
        (fun _ failed => failed.elim)
      rintro _ after ⟨noted, has, depends⟩
      -- The node was open while its own references were collected; now it is covered.
      refine ⟨grows_of_opened move ?_ (consistent.get?_target named) (grown.trans noted)
        (covered.mono noted.collects), has, depends⟩
      intro id differs
      exact Table.get?_insert_of_ne _ differs

/-- Collecting a reference of a reached node handles it, unless some reached node does not conform. -/
theorem ends_collectReference (consistent : env.Consistent) (fuel : Nat) :
    env.CollectsReference fuel := by
  induction fuel with
  | zero =>
      intro owner reference tables _ _ ready
      exact absurd ready (not_ready_zero consistent)
  | succ fuel ih =>
      intro owner reference tables reached refers ready
      cases named : env.target? reference with
      | none =>
          rw [collectReference_of_none named]
          exact ⟨.of_move (.warn _) rfl, .of_unknown named⟩
      | some target =>
          rw [collectReference_of_some consistent named]
          split
          · next title kind =>
              have isPage : target.isPage = true := by simp [Node.isPage, kind]
              exact ⟨.of_move (.warn _) rfl, .of_page named isPage⟩
          · next component kind =>
              have isElement : target.isElement = true := by simp [Node.isElement, kind]
              have needs : env.Needs reference target := ⟨owner, reached, refers, named⟩
              rw [Compile.ends_bind]
              refine (ends_elementAccessor consistent ready.justified needs isElement).imp ?_
                (fun _ failed => failed)
              rintro code middle ⟨grown, reads, argument, accepted⟩
              refine (ends_setAccessor needs reads).imp ?_ (fun _ failed => failed.elim)
              rintro _ after ⟨set, has, _⟩
              exact ⟨grown.trans set, .of_element named isElement accepted has⟩
          · next arguments kind =>
              have isDerived : target.isDerived = true := by simp [Node.isDerived, kind]
              refine (ends_collectDerived consistent ih reached refers named isDerived ready).imp ?_
                (fun _ failed => failed)
              rintro _ after ⟨grown, has, depends⟩
              exact ⟨grown, .of_derived named isDerived has depends⟩

theorem ends_collectNode (consistent : env.Consistent) (reached : env.Reached node)
    (ready : env.Ready (nestingBound env) tables) :
    (collectNode env node).Ends tables
      (fun _ after => env.Grows tables after ∧ env.Covered after node)
      env.Refuses :=
  ends_collectProps reached
    (fun reference tables => ends_collectReference consistent _ node reference tables reached) ready

/-- Collecting a page handles every reference of the nodes below it and of all derived nodes that it
    meets, unless some reached node does not conform. -/
theorem ends_collectPage {nodes : List Node} (consistent : env.Consistent)
    (walked : env.snapshot.descendants? env.page = some nodes) (justified : env.Justified tables) :
    (collectPage env).Ends tables
      (fun _ after => env.Grows tables after ∧
        ∀ node, env.snapshot.Below env.page node → env.Covered after node)
      env.Refuses := by
  have ready : env.Ready (nestingBound env) tables := ⟨justified, by unfold nestingBound; omega⟩
  have collected := Compile.ends_forM (env.Ready (nestingBound env)) env.Grows
    (fun node tables => env.Covered tables node) Grows.refl Grows.trans Ready.mono
    (fun covered grown => covered.mono grown.collects)
    (fun node member tables => ends_collectNode consistent
      (.placed ((Snapshot.mem_descendants walked node).mp member))) ready
  rw [collectPage, walked]
  refine collected.imp ?_ (fun _ failed => failed)
  rintro _ after ⟨grown, covered⟩
  exact ⟨grown, fun node below => covered node ((Snapshot.mem_descendants walked node).mpr below)⟩

end Environment

end PageCompiler
