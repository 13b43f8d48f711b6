/-
  Where the code of a resolved prop comes from.

  Resolving a node goes through its own props, the cells behind them and the declared defaults, and
  each of these writes code of its own form (`Written`). The tables are only read, at the moment the
  prop is written, so every name in the code is one that the tables hold.
-/
import PageCompiler.Proofs.Rendering

namespace PageCompiler

namespace Environment

variable {env : Environment}

theorem mem_catalog_of_component? {node : Node} {component : Component}
    (rendered : env.component? node = some component) : component ∈ env.catalog.values := by
  unfold component? at rendered
  split at rendered
  · exact Table.mem_values_iff.mpr ⟨_, rendered⟩
  · exact Table.mem_values_iff.mpr ⟨_, rendered⟩
  · cases rendered

/-- The declared type of a prop is that of the component's argument. -/
theorem argument_of_propTypes {node : Node} {component : Component} {name valueType : Text}
    (rendered : env.component? node = some component)
    (isType : (env.propTypes node).get? name = some valueType) :
    ∃ argument, component.arguments.get? name = some (some argument) ∧
      argument.valueType = valueType := by
  have noDerived : ∀ arguments, node.kind ≠ .derived arguments := by
    intro arguments kind
    rw [component?, kind] at rendered
    cases rendered
  unfold propTypes at isType
  split at isType
  · next kind => exact absurd kind (noDerived _)
  · rw [rendered] at isType
    obtain ⟨entry, member, made⟩ := List.mem_filterMap.mp (Table.mem_of_get?_ofList isType)
    obtain ⟨argument, isArgument, pair⟩ := Option.map_eq_some_iff.mp made
    cases pair
    have stored := Table.mem_entries_iff.mp member
    rw [isArgument] at stored
    exact ⟨argument, stored, rfl⟩

end Environment

namespace ResolvedProps

open Compile

/-- What a reference is read as: its accessor, or `undefined` if it has none or an empty one. -/
inductive ReadAs (tables : Tables) (reference : Text) : Text → Prop
  | accessor {code : Text} : tables.accessors.get? reference = some code → code ≠ [] →
      ReadAs tables reference code
  | undefined : (∀ code, tables.accessors.get? reference = some code → code = []) →
      ReadAs tables reference "undefined"

variable {tables : Tables}

theorem readAs_iff {reference code : Text} :
    ReadAs tables reference code ↔ code = readReference tables reference := by
  unfold readReference
  constructor
  · rintro (⟨found, filled⟩ | missing)
    · rw [found]
      split
      · next isNone => cases isNone
      · next isEmpty => exact absurd (Option.some.inj isEmpty) filled
      · next same => exact Option.some.inj same
    · split
      · rfl
      · rfl
      · next filled found =>
          cases missing _ found
          exact absurd rfl filled
  · rintro rfl
    split
    · next absent => exact .undefined fun code found => nomatch absent.symm.trans found
    · next isEmpty => exact .undefined fun code found => Option.some.inj (found.symm.trans isEmpty)
    · next filled found =>
        refine .accessor found ?_
        rintro rfl
        exact filled rfl

/-- The code that a value of the document gives: the literal of a constant, the formatted template
    and what the reference of a binding is read as. -/
inductive Given (tables : Tables) : PropValue → Code → Prop
  | literal (value : Json) : Given tables (.const value) (.expression value.literal)
  | template {text code : Text} {format : Option Text} {parts : List TemplatePart}
      {reading : Text → Text} :
      Template.parse text = .ok parts → (∀ reference, ReadAs tables reference (reading reference)) →
      Template.format format (Template.resolve (some ∘ reading) parts) = .ok code →
      Given tables (.template text format) (.expression code)
  | binding {reference code : Text} : ReadAs tables reference code →
      Given tables (.binding reference) (.expression code)

theorem given_template_iff {text : Text} {format : Option Text} {code : Code} :
    Given tables (.template text format) code ↔
      ∃ made, templateCode tables text format = .ok made ∧ code = .expression made := by
  unfold templateCode
  constructor
  · intro given
    cases given with
    | @template _ made _ _ reading parsed reads formatted =>
        have isReading : reading = readReference tables := funext fun _ => readAs_iff.mp (reads _)
        subst isReading
        exact ⟨made, by simp only [parsed, formatted], rfl⟩
  · rintro ⟨made, isMade, rfl⟩
    split at isMade
    · cases isMade
    · next parsed =>
        split at isMade
        · next formatted =>
            cases isMade
            exact .template parsed (fun _ => readAs_iff.mpr rfl) formatted
        · cases isMade

theorem given_binding_iff {reference : Text} {code : Code} :
    Given tables (.binding reference) code ↔
      code = .expression (readReference tables reference) := by
  constructor
  · intro given
    cases given with
    | binding reads => rw [readAs_iff.mp reads]
  · rintro rfl
    exact .binding (readAs_iff.mpr rfl)

/-- The query that a prop of the declared type names. -/
def queryOf? (valueType : Text) (value : PropValue) : Option Text :=
  if valueType = "dataQuery" then
    match value with
    | .const (.str (first :: rest)) => some (first :: rest)
    | _ => none
  else none

/-- What resolving one prop of the document can do. -/
theorem addAuthored_cases {node : Node} {props next : Props} {name valueType : Text}
    {value : PropValue} {before after : Tables}
    (ran : (addAuthored node props name valueType value).run before = .ok next after) :
    queryOf? valueType value = none ∧
        (next = props ∨ ∃ code, Given before value code ∧ next = props.insert name code) ∨
      ∃ query loader, queryOf? valueType value = some query ∧
        (useLoader query).run before = .ok loader after ∧
        next = appendSpread props ("\x7b..." ++ loader ++ "\x7d") := by
  unfold addAuthored queryType at ran
  unfold queryOf?
  split at ran
  · next isQuery =>
      rw [if_pos isQuery]
      split at ran
      · next query =>
          cases query with
          | nil =>
              cases ran
              exact .inl ⟨rfl, .inl rfl⟩
          | cons first rest =>
              obtain ⟨loader, middle, loaded, ran⟩ := run_bind_eq_ok.mp ran
              cases ran
              exact .inr ⟨_, loader, rfl, loaded, rfl⟩
      · next noText =>
          cases ran
          refine .inl ⟨?_, .inl rfl⟩
          split
          · next isText => exact absurd (PropValue.const.inj isText) (noText _)
          · rfl
      · cases ran
  · next noQuery =>
      rw [if_neg noQuery]
      refine .inl ⟨rfl, ?_⟩
      split at ran
      · cases ran
        exact .inr ⟨_, .literal _, rfl⟩
      · rw [run_get_bind_eq_ok] at ran
        obtain ⟨code, made, ran⟩ := run_ofExcept_bind_eq_ok.mp ran
        cases ran
        exact .inr ⟨_, given_template_iff.mpr ⟨_, made, rfl⟩, rfl⟩
      · rw [run_get_bind_eq_ok] at ran
        cases ran
        exact .inr ⟨_, given_binding_iff.mpr rfl, rfl⟩
      · obtain ⟨_, _, _, ran⟩ := run_bind_eq_ok.mp ran
        cases ran
        exact .inl rfl

/-- What holds of the props stays true while they are wired to cells if it stays true of each. -/
theorem addCells_keeps {kept : Props → Prop} {tables : Tables} {node : Node} {component : Component}
    {seed props : Props} (start : kept props)
    (wires : ∀ props name argument cell, kept props →
      component.arguments.get? name = some (some argument) →
      tables.cell? node.id name = some cell → kept (wireCell props name argument cell)) :
    kept (addCells tables node component seed props) := by
  refine List.foldlRecOn _ _ start ?_
  intro props isKept entry member
  have declared := Table.mem_entries_iff.mp member
  split
  · exact isKept
  · next isArgument =>
      rw [isArgument] at declared
      split
      · exact isKept
      · split
        · exact isKept
        · next found => exact wires _ _ _ _ isKept declared found

/-- The same for the declared defaults. -/
theorem addDefaults_keeps {kept : Props → Prop} {component : Component} {props : Props}
    (start : kept props)
    (takes : ∀ props name argument value, kept props →
      component.arguments.get? name = some (some argument) → argument.defaultValue = some value →
      props.contains (defaultTarget name argument) = false →
      kept (props.insert (defaultTarget name argument) (constant value))) :
    kept (addDefaults component props) := by
  refine List.foldlRecOn _ _ start ?_
  intro props isKept entry member
  have declared := Table.mem_entries_iff.mp member
  split
  · exact isKept
  · next isArgument =>
      rw [isArgument] at declared
      split
      · exact isKept
      · next hasDefault =>
          dsimp only
          split
          · exact isKept
          · next isOpen =>
              rw [Bool.or_eq_true, not_or, Bool.not_eq_true, Bool.not_eq_true] at isOpen
              exact takes _ _ _ _ isKept declared hasDefault isOpen.2

/-- The code that can be written for a prop of a node: child content, what the document gives, the
    state behind the prop and its setter, a declared default and the spread of data loaders. Tables
    are read at a moment. -/
inductive Written (env : Environment) (node : Node) (seed : Props) (moment : Tables → Prop) :
    Text → Code → Prop
  | child {name : Text} {code : Code} :
      seed.get? name = some code → Written env node seed moment name code
  | literal {name : Text} {value : Json} :
      node.props.get? name = some (some (.const value)) →
      Written env node seed moment name (.expression value.literal)
  | template {name text code : Text} {format : Option Text} {tables : Tables} :
      node.props.get? name = some (some (.template text format)) → moment tables →
      templateCode tables text format = .ok code →
      Written env node seed moment name (.expression code)
  | binding {name reference : Text} {tables : Tables} :
      node.props.get? name = some (some (.binding reference)) → moment tables →
      Written env node seed moment name (.expression (readReference tables reference))
  | state {name : Text} {cell : Cell} {tables : Tables} :
      moment tables → tables.cell? node.id name = some cell →
      Written env node seed moment name (.expression cell.state)
  | setter {name prop : Text} {component : Component} {argument : Argument} {cell : Cell}
      {tables : Tables} :
      env.component? node = some component →
      component.arguments.get? prop = some (some argument) → argument.changeProp = some name →
      moment tables → tables.cell? node.id prop = some cell →
      Written env node seed moment name (.expression (setterCode argument cell))
  | default {name : Text} {component : Component} {argument : Argument} {value : Json} :
      env.component? node = some component →
      component.arguments.get? name = some (some argument) → argument.defaultValue = some value →
      Written env node seed moment (defaultTarget name argument) (.expression value.literal)
  | spread {query loader : Text} {tables after : Tables} :
      moment tables → (useLoader query).run tables = .ok loader after → moment after →
      Written env node seed moment Code.spreadProp
        (.expression ("\x7b..." ++ loader ++ "\x7d"))
  | spreadNext {query loader : Text} {code : Code} {tables after : Tables} :
      Written env node seed moment Code.spreadProp code →
      moment tables → (useLoader query).run tables = .ok loader after → moment after →
      Written env node seed moment Code.spreadProp
        (.expression (code.text ++ " " ++ ("\x7b..." ++ loader ++ "\x7d")))

variable {env : Environment} {node : Node} {seed props : Props} {moment : Tables → Prop}

/-- All props of the node are written so far. -/
def AllWritten (env : Environment) (node : Node) (seed : Props) (moment : Tables → Prop)
    (props : Props) : Prop :=
  ∀ name code, props.get? name = some code → Written env node seed moment name code

theorem AllWritten.insert {name : Text} {code : Code} (written : AllWritten env node seed moment props)
    (new : Written env node seed moment name code) :
    AllWritten env node seed moment (props.insert name code) := by
  intro other stored found
  rw [Table.get?_insert] at found
  split at found
  · next same =>
      cases found
      rwa [same]
  · exact written other stored found

theorem AllWritten.appendSpread {query loader : Text} {tables after : Tables}
    (written : AllWritten env node seed moment props) (before : moment tables)
    (loaded : (useLoader query).run tables = .ok loader after) (later : moment after) :
    AllWritten env node seed moment
      (appendSpread props ("\x7b..." ++ loader ++ "\x7d")) := by
  refine written.insert ?_
  -- Earlier spread attributes stay in front of the new ones.
  cases found : props.get? Code.spreadProp with
  | none => exact .spread before loaded later
  | some code => exact .spreadNext (written _ _ found) before loaded later

theorem AllWritten.addAuthored {name valueType : Text} {value : PropValue} {next : Props}
    {before after : Tables} (written : AllWritten env node seed moment props)
    (given : node.props.get? name = some (some value)) (first : moment before) (last : moment after)
    (ran : (addAuthored node props name valueType value).run before = .ok next after) :
    AllWritten env node seed moment next := by
  rcases addAuthored_cases ran with ⟨_, rfl | ⟨code, made, rfl⟩⟩ | ⟨query, loader, _, loaded, rfl⟩
  · exact written
  · refine written.insert ?_
    cases value with
    | const value =>
        cases made
        exact .literal given
    | template text format =>
        obtain ⟨_, isMade, rfl⟩ := given_template_iff.mp made
        exact .template given first isMade
    | binding reference =>
        cases given_binding_iff.mp made
        exact .binding given first
    | unrecognized tag raw => cases made
  · exact written.appendSpread first loaded last

theorem AllWritten.addEntry {types : Table Text} {entry : Text × Option PropValue} {next : Props}
    {before after : Tables} (written : AllWritten env node seed moment props)
    (member : entry ∈ node.props.entries) (first : moment before) (last : moment after)
    (ran : (addEntry node types props entry).run before = .ok next after) :
    AllWritten env node seed moment next := by
  unfold ResolvedProps.addEntry at ran
  split at ran
  · next isValue =>
      split at ran
      · cases ran
        exact written
      · have given := Table.mem_entries_iff.mp member
        rw [isValue] at given
        exact written.addAuthored given first last ran
  · cases ran
    exact written

theorem AllWritten.wireCell {name : Text} {component : Component} {argument : Argument} {cell : Cell}
    {tables : Tables} (written : AllWritten env node seed moment props)
    (rendered : env.component? node = some component)
    (declared : component.arguments.get? name = some (some argument)) (now : moment tables)
    (found : tables.cell? node.id name = some cell) :
    AllWritten env node seed moment (wireCell props name argument cell) := by
  have wired := written.insert (.state now found)
  unfold ResolvedProps.wireCell
  split
  · exact wired
  · exact wired
  · next _ changes => exact wired.insert (.setter rendered declared changes now found)

theorem AllWritten.addCells {component : Component} {tables : Tables}
    (written : AllWritten env node seed moment props) (rendered : env.component? node = some component)
    (now : moment tables) :
    AllWritten env node seed moment (addCells tables node component seed props) :=
  addCells_keeps written fun _ _ _ _ written declared found =>
    written.wireCell rendered declared now found

theorem AllWritten.addDefaults {component : Component}
    (written : AllWritten env node seed moment props)
    (rendered : env.component? node = some component) :
    AllWritten env node seed moment (addDefaults component props) :=
  addDefaults_keeps written fun _ _ _ _ written declared hasDefault _ =>
    written.insert (.default rendered declared hasDefault)

variable {before after : Tables}
  (between : ∀ {tables}, Renders before tables → Renders tables after → moment tables)

include between

theorem allWritten_addAllAuthored (ran : (addAllAuthored env node seed).run before = .ok props after) :
    AllWritten env node seed moment props := by
  refine Follows.foldlM_keeps (renders_addEntry node (env.propTypes node)) ?_ ran
    fun _ _ found => .child found
  intro props entry next first second member reached passed left written
  have moved := (renders_addEntry node (env.propTypes node) props entry first).of_ok passed
  exact written.addEntry member (between reached (moved.trans left))
    (between (reached.trans moved) left) passed

/-- Every resolved prop is written from tables between those before and those after. -/
theorem allWritten_resolve (ran : (resolve env node seed).run before = .ok props after) :
    AllWritten env node seed moment props := by
  obtain ⟨authored, middle, first, ran⟩ := run_bind_eq_ok.mp ran
  have moved := (renders_addAllAuthored env node seed before).of_ok first
  split at ran
  · cases ran
    exact allWritten_addAllAuthored between first
  · next component rendered =>
      rw [run_get_bind_eq_ok] at ran
      cases ran
      have written := allWritten_addAllAuthored between first
      exact (written.addCells rendered (between moved .refl)).addDefaults rendered

end ResolvedProps

end PageCompiler
