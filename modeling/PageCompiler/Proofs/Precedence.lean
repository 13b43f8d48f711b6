/-
  Which of its sources gives a prop its code.

  The passes of the resolver go over the props of a document and over the arguments of a component, in
  two different orders, and they skip, overwrite and redirect. What an argument reports or leaves to
  another prop is written under the name of that prop. Under a name that nothing is redirected to only
  its own argument writes, and so the passes come down to one rule: the cell comes first, then what the
  document gives, then the declared default (`Precedence`).

  The spread attributes are put together in the order of the props of the document, and nothing else is
  written under their name unless a component uses it for something of its own.
-/
import PageCompiler.Proofs.ChildContent

namespace PageCompiler

open Compile

/-- The argument names no other prop that takes its default. -/
def Argument.KeepsDefault (argument : Argument) : Prop :=
  argument.defaultProp = none ∨ argument.defaultProp = some []

instance (argument : Argument) : Decidable argument.KeepsDefault :=
  inferInstanceAs (Decidable (_ ∨ _))

namespace Component

variable (component : Component)

def Declares (name : Text) : Prop :=
  ∃ argument, component.arguments.get? name = some (some argument)

/-- An argument reports its changes through the prop or leaves its default to it. -/
def Redirects (name : Text) : Prop :=
  ∃ prop argument, component.arguments.get? prop = some (some argument) ∧
    (argument.changeProp = some name ∨ argument.defaultProp = some name)

theorem declares_iff {component : Component} {name : Text} :
    component.Declares name ↔ (component.arguments.get? name).join.isSome = true := by
  rw [Option.isSome_iff_exists]
  exact exists_congr fun argument => Option.join_eq_some_iff.symm

theorem join_of_not_declares {component : Component} {name : Text}
    (undeclared : ¬ component.Declares name) : (component.arguments.get? name).join = none :=
  Option.not_isSome_iff_eq_none.mp (declares_iff.not.mp undeclared)

theorem redirects_iff {component : Component} {name : Text} :
    component.Redirects name ↔ ∃ declared ∈ component.arguments.values, ∃ argument ∈ declared,
      argument.changeProp = some name ∨ argument.defaultProp = some name := by
  constructor
  · rintro ⟨prop, argument, declared, same⟩
    exact ⟨some argument, Table.mem_values_iff.mpr ⟨prop, declared⟩, argument, rfl, same⟩
  · rintro ⟨declared, member, argument, rfl, same⟩
    obtain ⟨prop, found⟩ := Table.mem_values_iff.mp member
    exact ⟨prop, argument, found, same⟩

instance (component : Component) (name : Text) : Decidable (component.Declares name) :=
  decidable_of_iff' _ declares_iff

instance (component : Component) (name : Text) : Decidable (component.Redirects name) :=
  decidable_of_iff' _ redirects_iff

end Component

namespace ResolvedProps

variable {env : Environment} {node : Node} {seed props next : Props} {before middle after : Tables}
  {slot : Text} {code : Code} {types : Table Text} {component : Component}

/-- The document gives no value for the prop that can be rendered. -/
def Unauthored (node : Node) (name : Text) : Prop :=
  ∀ value, node.props.get? name = some (some value) → ∃ tag raw, value = .unrecognized tag raw

/-- The code of an argument that nothing is redirected to: its cell, what the document gives, or its
    default. -/
inductive Precedence (tables : Tables) (node : Node) (name : Text) (argument : Argument) :
    Option Code → Prop
  | cell {cell : Cell} : tables.cell? node.id name = some cell →
      Precedence tables node name argument (some (.expression cell.state))
  | authored {value : PropValue} {code : Code} : tables.cell? node.id name = none →
      node.props.get? name = some (some value) → Given tables value code →
      Precedence tables node name argument (some code)
  | default {value : Json} : tables.cell? node.id name = none → Unauthored node name →
      argument.defaultValue = some value → argument.KeepsDefault →
      Precedence tables node name argument (some (.expression value.literal))
  | absent : tables.cell? node.id name = none → Unauthored node name →
      argument.defaultValue = none ∨ ¬ argument.KeepsDefault →
      Precedence tables node name argument none

theorem ReadAs.congr {reference text : Text} (same : before.SameCollected after)
    (reads : ReadAs after reference text) : ReadAs before reference text := by
  rwa [readAs_iff, ← readReference_congr same, ← readAs_iff]

theorem Given.congr {value : PropValue} (same : before.SameCollected after)
    (given : Given after value code) : Given before value code := by
  cases given with
  | literal value => exact .literal value
  | template parsed reads formatted =>
      exact .template parsed (fun reference => (reads reference).congr same) formatted
  | binding reads => exact .binding (reads.congr same)

/-! The props of the document. -/

/-- What a value that the document may give leaves under the name of its prop. -/
inductive Gives (tables : Tables) : Option PropValue → Option Code → Prop
  | nothing : Gives tables none none
  | unrecognized (tag : Text) (raw : Json) : Gives tables (some (.unrecognized tag raw)) none
  | code {value : PropValue} {code : Code} : Given tables value code →
      Gives tables (some value) (some code)

theorem Gives.congr {value : Option PropValue} {result : Option Code}
    (same : before.SameCollected after) (gives : Gives after value result) :
    Gives before value result := by
  cases gives with
  | nothing => exact .nothing
  | unrecognized tag raw => exact .unrecognized tag raw
  | code given => exact .code (given.congr same)

theorem gives_addAuthored {valueType : Text} {value : PropValue} (noQuery : valueType ≠ queryType)
    (absent : props.get? slot = none)
    (ran : (addAuthored node props slot valueType value).run before = .ok next after) :
    Gives before (some value) (next.get? slot) := by
  unfold addAuthored at ran
  rw [if_neg noQuery] at ran
  split at ran
  · cases ran
    rw [Table.get?_insert_self]
    exact .code (.literal _)
  · rw [run_get_bind_eq_ok] at ran
    obtain ⟨written, made, ran⟩ := run_ofExcept_bind_eq_ok.mp ran
    cases ran
    rw [Table.get?_insert_self]
    exact .code (given_template_iff.mpr ⟨written, made, rfl⟩)
  · rw [run_get_bind_eq_ok] at ran
    cases ran
    rw [Table.get?_insert_self]
    exact .code (given_binding_iff.mpr rfl)
  · obtain ⟨_, _, _, ran⟩ := run_bind_eq_ok.mp ran
    cases ran
    rw [absent]
    exact .unrecognized _ _

theorem gives_addEntry {valueType : Text} {entry : Text × Option PropValue}
    (isType : types.get? entry.1 = some valueType) (noQuery : valueType ≠ queryType)
    (absent : props.get? entry.1 = none)
    (ran : (addEntry node types props entry).run before = .ok next after) :
    Gives before entry.2 (next.get? entry.1) := by
  obtain ⟨name, given⟩ := entry
  unfold addEntry at ran
  dsimp only at isType absent ran ⊢
  rw [isType] at ran
  cases given with
  | none =>
      cases ran
      rw [absent]
      exact .nothing
  | some value =>
      have isOpen : ¬ props.contains name = true := by simp [Table.contains, absent]
      dsimp only at ran
      rw [if_neg isOpen] at ran
      exact gives_addAuthored noQuery absent ran

/-- A prop of the document leaves the other props alone. -/
theorem get?_addEntry_of_ne {entry : Text × Option PropValue} (noSpread : slot ≠ Code.spreadProp)
    (differs : slot ≠ entry.1) (ran : (addEntry node types props entry).run before = .ok next after) :
    next.get? slot = props.get? slot := by
  unfold addEntry at ran
  split at ran
  · split at ran
    · cases ran
      rfl
    · rcases addAuthored_cases ran with ⟨_, rfl | ⟨_, _, rfl⟩⟩ | ⟨_, _, _, _, rfl⟩
      · rfl
      · exact Table.get?_insert_of_ne _ differs
      · exact Table.get?_insert_of_ne _ noSpread
  · cases ran
    rfl

theorem get?_foldlM_of_ne {entries : List (Text × Option PropValue)}
    (noSpread : slot ≠ Code.spreadProp) (differs : ∀ entry ∈ entries, slot ≠ entry.1)
    (ran : (entries.foldlM (addEntry node types) props).run before = .ok next after) :
    next.get? slot = props.get? slot := by
  let kept (result : Props) : Prop := result.get? slot = props.get? slot
  refine (Follows.foldlM_keeps (renders_addEntry node types) ?_ ran rfl : kept next)
  intro result entry further first second member _ passed _ kept
  exact (get?_addEntry_of_ne noSpread (differs entry member) passed).trans kept

theorem gives_foldlM {entries : List (Text × Option PropValue)} {valueType : Text}
    (distinct : (entries.map Prod.fst).Nodup) (isType : types.get? slot = some valueType)
    (noQuery : valueType ≠ queryType) (noSpread : slot ≠ Code.spreadProp)
    (absent : props.get? slot = none)
    (ran : (entries.foldlM (addEntry node types) props).run before = .ok next after) :
    Gives before (entries.lookup slot).join (next.get? slot) := by
  induction entries generalizing props before with
  | nil =>
      cases ran
      rw [absent]
      exact .nothing
  | cons entry rest ih =>
      rw [List.foldlM_cons] at ran
      obtain ⟨passed, middle, first, ran⟩ := run_bind_eq_ok.mp ran
      obtain ⟨fresh, restDistinct⟩ := List.nodup_cons.mp distinct
      by_cases same : slot = entry.1
      · subst same
        -- No later prop has the name, so what this one gives stays.
        have later : ∀ other ∈ rest, entry.1 ≠ other.1 :=
          fun other member same => fresh (same ▸ List.mem_map_of_mem member)
        rw [get?_foldlM_of_ne noSpread later ran, lookup_cons, if_pos rfl]
        exact gives_addEntry isType noQuery absent first
      · have moved := (renders_addEntry node types props entry before).of_ok first
        have stillAbsent := (get?_addEntry_of_ne noSpread same first).trans absent
        rw [lookup_cons, if_neg same]
        exact (ih restDistinct stillAbsent ran).congr (Renders.sameCollected moved)

/-! The arguments of the component. -/

/-- One pass over the declared arguments. -/
def overArguments (component : Component) (step : Props → Text → Argument → Props) (props : Props) :
    Props :=
  component.arguments.entries.foldl (fun props entry =>
    match entry.2 with
    | none => props
    | some argument => step props entry.1 argument) props

/-- A pass that writes nothing under the slot for other arguments leaves there what the slot's own
    argument makes of it. -/
theorem get?_overArguments {step : Props → Text → Argument → Props}
    (own : Argument → Option Code → Option Code)
    (elsewhere : ∀ props name argument, component.arguments.get? name = some (some argument) →
      slot ≠ name → (step props name argument).get? slot = props.get? slot)
    (here : ∀ props argument, component.arguments.get? slot = some (some argument) →
      (step props slot argument).get? slot = own argument (props.get? slot)) :
    (overArguments component step props).get? slot =
      match (component.arguments.get? slot).join with
      | none => props.get? slot
      | some argument => own argument (props.get? slot) := by
  have distinct := component.arguments.distinct
  have declared : ∀ entry ∈ component.arguments.entries,
      component.arguments.get? entry.1 = some entry.2 :=
    fun _ member => Table.mem_entries_iff.mp member
  unfold overArguments
  change _ = match (component.arguments.entries.lookup slot).join with
    | none => props.get? slot
    | some argument => own argument (props.get? slot)
  generalize component.arguments.entries = entries at distinct declared ⊢
  induction entries generalizing props with
  | nil => rfl
  | cons entry rest ih =>
      obtain ⟨fresh, restDistinct⟩ := List.nodup_cons.mp distinct
      obtain ⟨first, others⟩ := List.forall_mem_cons.mp declared
      obtain ⟨name, argument⟩ := entry
      dsimp only at first fresh
      rw [List.foldl_cons, ih restDistinct others, lookup_cons]
      by_cases same : slot = name
      · subst same
        rw [lookup_eq_none_of_not_mem fresh, if_pos rfl]
        cases argument with
        | none => rfl
        | some argument => exact here _ _ first
      · rw [if_neg same]
        cases argument with
        | none => rfl
        | some argument =>
            dsimp only
            rw [elsewhere _ _ _ first same]

/-- Wires an argument that has a cell and no child content. -/
def wireArgument (tables : Tables) (node : Node) (seed props : Props) (name : Text)
    (argument : Argument) : Props :=
  if seed.contains name then props
  else
    match tables.cell? node.id name with
    | none => props
    | some cell => wireCell props name argument cell

/-- Writes the default of an argument, unless the argument or the prop that takes the default is
    there. -/
def addDefault (props : Props) (name : Text) (argument : Argument) : Props :=
  match argument.defaultValue with
  | none => props
  | some value =>
      let target := defaultTarget name argument
      if props.contains name || props.contains target then props
      else props.insert target (constant value)

theorem addCells_eq (tables : Tables) (node : Node) (component : Component) (seed props : Props) :
    addCells tables node component seed props =
      overArguments component (wireArgument tables node seed) props :=
  rfl

theorem addDefaults_eq (component : Component) (props : Props) :
    addDefaults component props = overArguments component addDefault props :=
  rfl

variable {name : Text} {argument : Argument} {tables : Tables}

theorem get?_wireArgument_of_ne (differs : slot ≠ name) (noChange : argument.changeProp ≠ some slot) :
    (wireArgument tables node seed props name argument).get? slot = props.get? slot := by
  unfold wireArgument
  split
  · rfl
  · split
    · rfl
    · rw [get?_wireCell differs, if_neg fun writes => noChange writes.1]

theorem get?_wireArgument_self (noChange : argument.changeProp ≠ some slot)
    (isOpen : seed.contains slot = false) :
    (wireArgument tables node seed props slot argument).get? slot =
      ((tables.cell? node.id slot).map fun cell => .expression cell.state).or (props.get? slot) := by
  unfold wireArgument
  rw [if_neg (by simp [isOpen])]
  cases tables.cell? node.id slot with
  | none => rfl
  | some cell =>
      show (wireCell props slot argument cell).get? slot = some (.expression cell.state)
      unfold wireCell
      split
      · exact Table.get?_insert_self _ _ _
      · exact Table.get?_insert_self _ _ _
      · next changeProp _ isProp =>
          have differs : slot ≠ changeProp := fun same => noChange (same ▸ isProp)
          rw [Table.get?_insert_of_ne _ differs, Table.get?_insert_self]

/-- The prop that takes a default is the argument or the one that it names. -/
theorem defaultTarget_cases (name : Text) (argument : Argument) :
    argument.KeepsDefault ∧ defaultTarget name argument = name ∨
      ¬ argument.KeepsDefault ∧ argument.defaultProp = some (defaultTarget name argument) := by
  unfold defaultTarget Argument.KeepsDefault
  split
  · next isNone => exact .inl ⟨.inl isNone, rfl⟩
  · next isEmpty => exact .inl ⟨.inr isEmpty, rfl⟩
  · next target nonempty isTarget =>
      refine .inr ⟨?_, isTarget⟩
      rintro (isNone | isEmpty)
      · cases isTarget.symm.trans isNone
      · exact nonempty (Option.some.inj (isTarget.symm.trans isEmpty))

theorem get?_addDefault_of_ne (differs : slot ≠ name) (noDefault : argument.defaultProp ≠ some slot) :
    (addDefault props name argument).get? slot = props.get? slot := by
  have elsewhere : slot ≠ defaultTarget name argument := by
    rcases defaultTarget_cases name argument with ⟨_, isName⟩ | ⟨_, isProp⟩
    · rwa [isName]
    · rintro rfl
      exact noDefault isProp
  unfold addDefault
  split
  · rfl
  · dsimp only
    split
    · rfl
    · exact Table.get?_insert_of_ne _ elsewhere

theorem get?_addDefault_self (noDefault : argument.defaultProp ≠ some slot) :
    (addDefault props slot argument).get? slot =
      (props.get? slot).or
        (if argument.KeepsDefault then argument.defaultValue.map constant else none) := by
  unfold addDefault
  split
  · next noValue => simp [noValue]
  · next value isValue =>
      dsimp only
      cases found : props.get? slot with
      | some code =>
          rw [contains_of_get? found]
          exact found
      | none =>
          have absent : props.contains slot = false := by simp [Table.contains, found]
          rw [absent, Bool.false_or, Option.none_or, isValue]
          rcases defaultTarget_cases slot argument with ⟨keeps, isName⟩ | ⟨leaves, isProp⟩
          · rw [isName, absent, if_neg (by decide), if_pos keeps]
            exact Table.get?_insert_self _ _ _
          · have differs : slot ≠ defaultTarget slot argument := fun same => noDefault (same ▸ isProp)
            rw [if_neg leaves]
            split
            · exact found
            · rw [Table.get?_insert_of_ne _ differs, found]

/-! Both together. -/

theorem propTypes_of_argument (rendered : env.component? node = some component)
    (declared : component.arguments.get? name = some (some argument)) :
    (env.propTypes node).get? name = some argument.valueType := by
  have listed : (name, argument.valueType) ∈ component.arguments.entries.filterMap fun entry =>
      entry.2.map fun argument => (entry.1, argument.valueType) :=
    List.mem_filterMap.mpr ⟨_, Table.mem_entries_iff.mpr declared, rfl⟩
  have isTable : env.propTypes node = .ofList (component.arguments.entries.filterMap fun entry =>
      entry.2.map fun argument => (entry.1, argument.valueType)) := by
    unfold Environment.propTypes
    split
    · next kind =>
        rw [Environment.component?, kind] at rendered
        cases rendered
    · rw [rendered]
  obtain ⟨valueType, isType⟩ := Table.exists_get?_ofList listed
  rw [← isTable] at isType
  obtain ⟨other, same, rfl⟩ := Environment.argument_of_propTypes rendered isType
  cases declared.symm.trans same
  exact isType

theorem get?_propTypes (rendered : env.component? node = some component) (name : Text) :
    (env.propTypes node).get? name = (component.arguments.get? name).join.map (·.valueType) := by
  refine Option.ext fun valueType => ?_
  rw [Option.map_eq_some_iff]
  simp only [Option.join_eq_some_iff]
  constructor
  · exact Environment.argument_of_propTypes rendered
  · rintro ⟨argument, declared, rfl⟩
    exact propTypes_of_argument rendered declared

/-- The passes over the arguments of a component. -/
theorem run_resolve (rendered : env.component? node = some component) :
    (resolve env node seed).run before = .ok props after ↔
      ∃ authored, (addAllAuthored env node seed).run before = .ok authored after ∧
        props = addDefaults component (addCells after node component seed authored) := by
  unfold resolve
  rw [run_bind_eq_ok]
  constructor
  · rintro ⟨authored, middle, first, ran⟩
    rw [rendered] at ran
    cases ran
    exact ⟨authored, first, rfl⟩
  · rintro ⟨authored, first, rfl⟩
    refine ⟨authored, after, first, ?_⟩
    rw [rendered]
    rfl

theorem not_redirects_iff : ¬ component.Redirects slot ↔
    (∀ prop argument, component.arguments.get? prop = some (some argument) →
      argument.changeProp ≠ some slot) ∧
    ∀ prop argument, component.arguments.get? prop = some (some argument) →
      argument.defaultProp ≠ some slot := by
  constructor
  · intro never
    exact ⟨fun prop argument declared same => never ⟨prop, argument, declared, .inl same⟩,
      fun prop argument declared same => never ⟨prop, argument, declared, .inr same⟩⟩
  · rintro ⟨noChange, noDefault⟩ ⟨prop, argument, declared, same | same⟩
    · exact noChange prop argument declared same
    · exact noDefault prop argument declared same

/-- What the three passes leave under the name of an argument that nothing is redirected to. -/
theorem get?_arguments (declared : component.arguments.get? slot = some (some argument))
    (never : ¬ component.Redirects slot) (isOpen : seed.contains slot = false) :
    (addDefaults component (addCells tables node component seed props)).get? slot =
      (((tables.cell? node.id slot).map fun cell => .expression cell.state).or
        (props.get? slot)).or
          (if argument.KeepsDefault then argument.defaultValue.map constant else none) := by
  obtain ⟨noChange, noDefault⟩ := not_redirects_iff.mp never
  rw [addDefaults_eq, get?_overArguments
    (fun argument code => code.or
      (if argument.KeepsDefault then argument.defaultValue.map constant else none))
    (fun _ _ _ other differs => get?_addDefault_of_ne differs (noDefault _ _ other))
    (fun _ _ same => get?_addDefault_self (noDefault _ _ same)), declared]
  dsimp only [Option.join_some]
  rw [addCells_eq, get?_overArguments
    (fun _ code => ((tables.cell? node.id slot).map fun cell => .expression cell.state).or code)
    (fun _ _ _ other differs => get?_wireArgument_of_ne differs (noChange _ _ other))
    (fun _ _ same => get?_wireArgument_self (noChange _ _ same) isOpen), declared]
  rfl

/-- Under a name that is no argument's and that nothing is redirected to, the passes write nothing. -/
theorem get?_arguments_of_undeclared (undeclared : ¬ component.Declares slot)
    (never : ¬ component.Redirects slot) :
    (addDefaults component (addCells tables node component seed props)).get? slot =
      props.get? slot := by
  obtain ⟨noChange, noDefault⟩ := not_redirects_iff.mp never
  have isNone := Component.join_of_not_declares undeclared
  rw [addDefaults_eq, get?_overArguments (fun _ code => code)
    (fun _ _ _ other differs => get?_addDefault_of_ne differs (noDefault _ _ other))
    (fun _ argument same => absurd ⟨argument, same⟩ undeclared), isNone]
  dsimp only
  rw [addCells_eq, get?_overArguments (fun _ code => code)
    (fun _ _ _ other differs => get?_wireArgument_of_ne differs (noChange _ _ other))
    (fun _ argument same => absurd ⟨argument, same⟩ undeclared), isNone]

theorem Gives.unauthored {result : Option Code}
    (gives : Gives tables (node.props.get? name).join result) (isNone : result = none) :
    Unauthored node name := by
  intro value given
  rw [given] at gives
  cases gives with
  | unrecognized tag raw => exact ⟨tag, raw, rfl⟩
  | code _ => cases isNone

theorem Gives.given {value : Option PropValue} {result : Option Code} (gives : Gives tables value result)
    (isCode : result = some code) : ∃ given, value = some given ∧ Given tables given code := by
  cases gives with
  | nothing => cases isCode
  | unrecognized _ _ => cases isCode
  | code given =>
      cases isCode
      exact ⟨_, rfl, given⟩

theorem precedence_resolve (rendered : env.component? node = some component)
    (declared : component.arguments.get? name = some (some argument))
    (noSpread : name ≠ Code.spreadProp) (noQuery : argument.valueType ≠ queryType)
    (isOpen : seed.contains name = false) (never : ¬ component.Redirects name)
    (ran : (resolve env node seed).run before = .ok props after) :
    Precedence before node name argument (props.get? name) := by
  obtain ⟨authored, first, rfl⟩ := (run_resolve rendered).mp ran
  have moved := Renders.sameCollected ((renders_addAllAuthored env node seed before).of_ok first)
  have absent : seed.get? name = none := by simpa [Table.contains] using isOpen
  have gives : Gives before (node.props.get? name).join (authored.get? name) :=
    gives_foldlM node.props.distinct (propTypes_of_argument rendered declared) noQuery noSpread absent
      first
  rw [get?_arguments declared never isOpen, Tables.cell?, moved.cells]
  change Precedence before node name argument
    ((((before.cell? node.id name).map _).or _).or _)
  cases isCell : before.cell? node.id name with
  | some cell => exact .cell isCell
  | none =>
      rw [Option.map_none, Option.none_or]
      cases isCode : authored.get? name with
      | some code =>
          obtain ⟨value, given, isGiven⟩ := gives.given isCode
          exact .authored isCell (Option.join_eq_some_iff.mp given) isGiven
      | none =>
          have unauthored := gives.unauthored isCode
          rw [Option.none_or]
          split
          · next keeps =>
              cases isValue : argument.defaultValue with
              | none => exact .absent isCell unauthored (.inl isValue)
              | some value => exact .default isCell unauthored isValue keeps
          · next leaves => exact .absent isCell unauthored (.inr leaves)

/-! Names and spread attributes. -/

/-- The names that may be written. -/
def IsExpected (component : Component) (seed : Props) (name : Text) : Prop :=
  seed.contains name = true ∨ component.Declares name ∨ component.Redirects name ∨
    name = Code.spreadProp

/-- Only expected names are there. -/
def AllExpected (component : Component) (seed props : Props) : Prop :=
  ∀ name, props.contains name = true → IsExpected component seed name

theorem AllExpected.insert (all : AllExpected component seed props) (code : Code)
    (expected : IsExpected component seed name) :
    AllExpected component seed (props.insert name code) := by
  intro other found
  rw [Table.contains_insert, Bool.or_eq_true, beq_iff_eq] at found
  rcases found with rfl | stored
  · exact expected
  · exact all other stored

theorem AllExpected.addEntry {entry : Text × Option PropValue}
    (rendered : env.component? node = some component) (all : AllExpected component seed props)
    (ran : (addEntry node (env.propTypes node) props entry).run before = .ok next after) :
    AllExpected component seed next := by
  unfold ResolvedProps.addEntry at ran
  split at ran
  · next valueType value isType _ =>
      obtain ⟨argument, declared, _⟩ := Environment.argument_of_propTypes rendered isType
      split at ran
      · cases ran
        exact all
      · rcases addAuthored_cases ran with ⟨_, rfl | ⟨_, _, rfl⟩⟩ | ⟨_, _, _, _, rfl⟩
        · exact all
        · exact all.insert _ (.inr (.inl ⟨argument, declared⟩))
        · exact all.insert _ (.inr (.inr (.inr rfl)))
  · cases ran
    exact all

theorem allExpected_resolve (rendered : env.component? node = some component)
    (ran : (resolve env node seed).run before = .ok props after) :
    AllExpected component seed props := by
  obtain ⟨authored, first, rfl⟩ := (run_resolve rendered).mp ran
  have given : AllExpected component seed authored :=
    Follows.foldlM_keeps (renders_addEntry node (env.propTypes node))
      (fun _ _ _ _ _ _ _ passed _ all => all.addEntry rendered passed) first
      fun _ stored => .inl stored
  refine addDefaults_keeps (addCells_keeps given ?cells) ?defaults
  case cells =>
    intro props name argument cell all declared _
    have wired := all.insert (.expression cell.state) (.inr (.inl ⟨argument, declared⟩))
    unfold wireCell
    split
    · exact wired
    · exact wired
    · next isProp => exact wired.insert _ (.inr (.inr (.inl ⟨name, argument, declared, .inl isProp⟩)))
  case defaults =>
    intro props name argument value all declared _ _
    refine all.insert _ ?_
    rcases defaultTarget_cases name argument with ⟨_, isName⟩ | ⟨_, isProp⟩
    · rw [isName]
      exact .inr (.inl ⟨argument, declared⟩)
    · exact .inr (.inr (.inl ⟨name, argument, declared, .inr isProp⟩))

/-- The query that the document gives for an argument without child content. -/
def givenQuery? (component : Component) (seed : Props) (entry : Text × Option PropValue) :
    Option Text :=
  if seed.contains entry.1 then none
  else
    (component.arguments.get? entry.1).join.bind fun argument =>
      entry.2.bind (queryOf? argument.valueType)

theorem spreadQueries_eq (rendered : env.component? node = some component) (seed : Props) :
    spreadQueries env node seed = node.props.entries.filterMap (givenQuery? component seed) := by
  refine List.filterMap_congr fun entry _ => ?_
  rw [spreadQuery?, get?_propTypes rendered, Option.bind_map]
  rfl

/-- Spread attributes as they are written, none if there are no loaders. -/
def spreadCode? : List Text → Option Code
  | [] => none
  | loaders => some (.expression (List.intercalate " " (loaders.map spreadText)))

theorem foldl_withSpread (text : Text) (loaders : List Text) :
    loaders.foldl withSpread (.expression text) =
      .expression (List.intercalate " " (text :: loaders.map spreadText)) := by
  induction loaders generalizing text with
  | nil => simp
  | cons loader loaders ih =>
      rw [List.foldl_cons, List.map_cons, List.intercalate_cons_cons]
      refine (ih _).trans (congrArg Code.expression ?_)
      cases loaders with
      | nil => simp [spreadText, Code.expression]
      | cons next loaders =>
          rw [List.map_cons, List.intercalate_cons_cons, List.intercalate_cons_cons]
          simp [spreadText, Code.expression]

theorem foldl_addSpread_none (loaders : List Text) :
    loaders.foldl addSpread none = spreadCode? loaders := by
  cases loaders with
  | nil => rfl
  | cons loader loaders =>
      refine (foldl_addSpread _ _).trans (congrArg some ?_)
      exact foldl_withSpread (spreadText loader) loaders

theorem spread_resolve (rendered : env.component? node = some component)
    (isOpen : seed.contains Code.spreadProp = false)
    (undeclared : ¬ component.Declares Code.spreadProp)
    (never : ¬ component.Redirects Code.spreadProp)
    (ran : (resolve env node seed).run before = .ok props after) :
    ∃ loaders, List.Forall₂ (fun query loader => after.loaders.get? query = some loader)
        (node.props.entries.filterMap (givenQuery? component seed)) loaders ∧
      props.get? Code.spreadProp = spreadCode? loaders := by
  obtain ⟨authored, first, rfl⟩ := (run_resolve rendered).mp ran
  have absent : seed.get? Code.spreadProp = none := by simpa [Table.contains] using isOpen
  have only : SpreadOnly (env.propTypes node) seed := by
    left
    rw [get?_propTypes rendered, Component.join_of_not_declares undeclared, Option.map_none]
  obtain ⟨loaders, loaded, isSpread⟩ :=
    spread_foldlM node.props.distinct only only (fun _ _ _ => rfl) first
  rw [absent, foldl_addSpread_none] at isSpread
  rw [← spreadQueries_eq rendered]
  exact ⟨loaders, loaded, (get?_arguments_of_undeclared undeclared never).trans isSpread⟩

/-- An argument that has no child content and that nothing is redirected to gets its code by
    precedence. No other names are written, and the spread attributes are those of the queries that the
    document gives, in the order of the props. -/
theorem resolve_precedence (rendered : env.component? node = some component)
    (ran : (resolve env node seed).run before = .ok props after) :
    (∀ name argument, component.arguments.get? name = some (some argument) →
      name ≠ Code.spreadProp → argument.valueType ≠ "dataQuery" → seed.contains name = false →
      ¬ component.Redirects name →
      Precedence before node name argument (props.get? name)) ∧
    (∀ name, props.contains name = true →
      seed.contains name = true ∨ component.Declares name ∨ component.Redirects name ∨
        name = Code.spreadProp) ∧
    (seed.contains Code.spreadProp = false → ¬ component.Declares Code.spreadProp →
      ¬ component.Redirects Code.spreadProp →
      ∃ loaders, List.Forall₂ (fun query loader => after.loaders.get? query = some loader)
          (node.props.entries.filterMap (givenQuery? component seed)) loaders ∧
        props.get? Code.spreadProp = spreadCode? loaders) := by
  refine ⟨?precedence, allExpected_resolve rendered ran, ?spread⟩
  case precedence =>
    intro name argument declared noSpread noQuery isOpen never
    exact precedence_resolve rendered declared noSpread noQuery isOpen never ran
  case spread =>
    intro isOpen undeclared never
    exact spread_resolve rendered isOpen undeclared never ran

end ResolvedProps

namespace Form

/-- How closely the rows of the grid are set. -/
def density : Argument := Component.withDefaultValue "string" (.str "compact")

theorem exists_resolved_grid : ∃ env started collected props after,
    Environment.start document Catalog.builtin false page = .ok (env, started) ∧
      (Collection.collectPage env).run started = .ok () collected ∧
      (ResolvedProps.resolve env grid .empty).run collected = .ok props after ∧
      props.get? "density" = some (.expression "\x22compact\x22") ∧
      props.get? Code.spreadProp = some (.expression "\x7b...orders\x7d") := by
  have checked : Environment.collectsSuch document Catalog.builtin false page (fun env collected =>
      ((ResolvedProps.resolve env grid .empty).run' collected).any fun props =>
        props.get? "density" = some (.expression "\x22compact\x22") ∧
          props.get? Code.spreadProp = some (.expression "\x7b...orders\x7d")) = true := by
    decide +kernel
  obtain ⟨env, started, collected, start_ok, ran, resolved⟩ := Environment.exists_collected checked
  obtain ⟨props, after, resolves, pinned⟩ := Compile.exists_run_of_any resolved
  exact ⟨env, started, collected, props, after, start_ok, ran, resolves, of_decide_eq_true pinned⟩

end Form

namespace ResolvedProps

theorem resolve_precedence_grid : ∃ env collected props after,
    (resolve env Form.grid .empty).run collected = .ok props after ∧
      Precedence collected Form.grid "density" Form.density (props.get? "density") ∧
      props.get? "density" = some (.expression "\x22compact\x22") ∧
      (∃ loaders, List.Forall₂ (fun query loader => after.loaders.get? query = some loader)
          (Form.grid.props.entries.filterMap (givenQuery? Component.dataGrid .empty)) loaders ∧
        props.get? Code.spreadProp = spreadCode? loaders) ∧
      props.get? Code.spreadProp = some (.expression "\x7b...orders\x7d") := by
  obtain ⟨env, _, collected, props, after, start_ok, _, resolves, isDensity, isSpread⟩ :=
    Form.exists_resolved_grid
  have rendered : env.component? Form.grid = some Component.dataGrid := by
    rw [Environment.component?, (Environment.start_given start_ok).2.2.1]
    rfl
  obtain ⟨precedence, _, spread⟩ := resolve_precedence rendered resolves
  refine ⟨env, collected, props, after, resolves, ?_, isDensity, ?_, isSpread⟩
  · exact precedence "density" Form.density rfl (by decide) (by decide) rfl (by decide)
  · exact spread rfl (by decide) (by decide)

end ResolvedProps

end PageCompiler
