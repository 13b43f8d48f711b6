/-
  What is rendered is balanced.

  While a page is rendered every name in the tables is an identifier, and the code of every reference is
  an identifier with a path behind it, so both are neutral (`Tables.Neutral`). What is written for a prop
  is then balanced whatever the document says, and its name can be written as an attribute because the
  component declares it or a child names it as its slot. From the leaves up, all elements are balanced.
-/
import PageCompiler.Proofs.Brackets.Elements
import PageCompiler.Proofs.ModuleNames
import PageCompiler.Proofs.WrittenProps

namespace PageCompiler

open Compile Layout

theorem Names.Own.neutral {names : Names} (own : names.Own) (slot : NameSlot) {name : Text}
    (found : names.nameOf? slot = some name) : Layout.Neutral name :=
  (own.proper name (own.taken found)).1.neutral

/-- The names in the tables are proper, and the code of references is neutral. -/
structure Tables.Neutral (app : Option Text) (tables : Tables) : Prop where
  own : (tables.names app).Own
  accessors : ∀ {reference code}, tables.accessors.get? reference = some code → Layout.Neutral code

namespace Tables.Neutral

variable {app : Option Text} {before after tables : Tables}

theorem renders (neutral : before.Neutral app) (moves : Renders before after) : after.Neutral app := by
  refine ⟨moves.takesNames.own neutral.own, fun {reference code} found => ?_⟩
  rw [moves.sameCollected.accessors] at found
  exact neutral.accessors found

theorem name (neutral : tables.Neutral app) (slot : NameSlot) {name : Text}
    (found : (tables.names app).nameOf? slot = some name) : Layout.Neutral name :=
  neutral.own.neutral slot found

theorem cell (neutral : tables.Neutral app) {nodeId prop : Text} {cell : Cell}
    (found : tables.cell? nodeId prop = some cell) :
    Layout.Neutral cell.state ∧ Layout.Neutral cell.setter := by
  have stored : tables.cells.get? (cellKey nodeId prop) = some cell := found
  constructor
  · exact neutral.name (.state (cellKey nodeId prop)) (by simp [names, stored])
  · exact neutral.name (.setter (cellKey nodeId prop)) (by simp [names, stored])

theorem readReference (neutral : tables.Neutral app) (reference : Text) :
    Layout.Neutral (ResolvedProps.readReference tables reference) := by
  unfold ResolvedProps.readReference
  split
  · decide
  · decide
  · next found => exact neutral.accessors found

/-- The alias of an import. -/
theorem addImport (neutral : before.Neutral app) {source symbol name : Text} {suggestion : Option Text}
    (ran : (addImport source symbol suggestion).run before = .ok name after) :
    after.Neutral app ∧ Layout.Neutral name := by
  obtain ⟨moved, found⟩ := (ends_addImport_localName source symbol suggestion).of_ok ran
  have later := neutral.renders moved
  exact ⟨later, later.name (.imported source symbol) found⟩

/-- The variable of a query. -/
theorem loader (neutral : before.Neutral app) {query name : Text}
    (ran : (useLoader query).run before = .ok name after) : Layout.Neutral name := by
  obtain ⟨moved, found⟩ := (ends_useLoader query).of_ok ran
  exact (neutral.renders moved).name (.loader query) found

end Tables.Neutral

variable {env : Environment} {node : Node} {app : Option Text} {before after : Tables}

namespace ResolvedProps

theorem neutralCodes_resolve {tables : Tables} (neutral : tables.Neutral app)
    (parts : List TemplatePart) :
    Template.NeutralCodes (Template.resolve (some ∘ readReference tables) parts) := by
  intro path code member
  obtain ⟨part, _, made⟩ := List.mem_map.mp member
  cases part with
  | text content => cases made
  | reference path =>
      cases made
      exact neutral.readReference path

theorem balanced_templateCode {tables : Tables} (neutral : tables.Neutral app) {text code : Text}
    {format : Option Text} (made : templateCode tables text format = .ok code) : Balanced code := by
  unfold templateCode at made
  split at made
  · cases made
  · split at made
    · next formatted =>
        cases made
        exact Template.balanced_format (neutralCodes_resolve neutral _) formatted
    · cases made

theorem balanced_setterCode {argument : Argument} {cell : Cell} (plain : argument.Unmarked)
    (setter : Layout.Neutral cell.setter) : Balanced (setterCode argument cell) := by
  unfold setterCode
  split
  · next handler given =>
      obtain ⟨params, valueGetter⟩ := plain.2.2 handler given
      have listed : Balanced (List.intercalate ", " handler.params) :=
        .intercalate (Unmarked.balanced (by decide)) fun param member => (params param member).balanced
      exact ((((((Path.fixed "(" rfl).hold listed).write ") => " rfl).hold setter.balanced).write "("
        rfl).hold valueGetter.balanced).write ")" rfl
  · exact setter.balanced

theorem balanced_spread {loader : Text} (neutral : Layout.Neutral loader) :
    Balanced ("\x7b..." ++ loader ++ "\x7d") :=
  ((Path.fixed "\x7b..." rfl).hold neutral.balanced).write "\x7d" rfl

/-- What is written for a prop is balanced. -/
theorem balanced_of_written {seed : Props} {moment : Tables → Prop} {name : Text} {code : Code}
    (bracketed : env.catalog.Bracketed) (children : seed.Balanced)
    (neutral : ∀ tables, moment tables → tables.Neutral app)
    (written : Written env node seed moment name code) : Balanced code.text := by
  induction written with
  | child found => exact children _ _ found
  | literal _ => exact Json.balanced_literal _
  | template _ now made => exact balanced_templateCode (neutral _ now) made
  | binding _ now => exact ((neutral _ now).readReference _).balanced
  | state now found => exact ((neutral _ now).cell found).1.balanced
  | setter rendered declared _ now found =>
      have component := bracketed _ (Environment.mem_catalog_of_component? rendered)
      exact balanced_setterCode (component.arguments _ _ declared).2 ((neutral _ now).cell found).2
  | default _ _ _ => exact Json.balanced_literal _
  | spread now loaded _ => exact balanced_spread ((neutral _ now).loader loaded)
  | spreadNext _ now loaded _ ih =>
      exact (Path.write ih " " rfl).hold (balanced_spread ((neutral _ now).loader loaded))

/-- Resolved props are balanced if the child content is. -/
theorem balanced_resolve {seed props : Props} (bracketed : env.catalog.Bracketed)
    (children : seed.Balanced) (neutral : before.Neutral app)
    (ran : (resolve env node seed).run before = .ok props after) : props.Balanced := by
  intro name code found
  have written : AllWritten env node seed (fun tables => tables.Neutral app) props :=
    allWritten_resolve (fun moved _ => neutral.renders moved) ran
  exact balanced_of_written bracketed children (fun _ now => now) (written name code found)

/-! The names of resolved props. -/

theorem named_addAuthored {props next : Props} {name valueType : Text} {value : PropValue}
    (named : props.Named) (plain : Unmarked name)
    (ran : (addAuthored node props name valueType value).run before = .ok next after) : next.Named := by
  rcases addAuthored_cases ran with ⟨_, rfl | ⟨code, _, rfl⟩⟩ | ⟨_, loader, _, _, rfl⟩
  · exact named
  · exact named.insert plain code
  · exact named.insert (by decide) _

theorem named_addEntry {types : Table Text} {props next : Props} {entry : Text × Option PropValue}
    (declared : ∀ name valueType, types.get? name = some valueType → Unmarked name)
    (named : props.Named) (ran : (addEntry node types props entry).run before = .ok next after) :
    next.Named := by
  unfold addEntry at ran
  split at ran
  · next isType _ =>
      split at ran
      · cases ran
        exact named
      · exact named_addAuthored named (declared _ _ isType) ran
  · cases ran
    exact named

theorem named_wireCell {props : Props} {name : Text} {argument : Argument} (named : props.Named)
    (plain : Unmarked name ∧ argument.Unmarked) (cell : Cell) :
    (wireCell props name argument cell).Named := by
  have wired := named.insert plain.1 (.expression cell.state)
  unfold wireCell
  split
  · exact wired
  · exact wired
  · next prop _ changes => exact wired.insert (plain.2.1 prop changes) _

variable {component : Component} (bracketed : component.Bracketed) {props seed : Props}
include bracketed

theorem named_addCells (tables : Tables) (named : props.Named) :
    (addCells tables node component seed props).Named :=
  addCells_keeps named fun _ _ _ cell named declared _ =>
    named_wireCell named (bracketed.arguments _ _ declared) cell

theorem named_addDefaults (named : props.Named) : (addDefaults component props).Named := by
  refine addDefaults_keeps named fun props name argument value named declared _ _ => ?_
  obtain ⟨plain, _, target, _⟩ := bracketed.arguments name argument declared
  refine named.insert ?_ _
  unfold defaultTarget
  split
  · exact plain
  · exact plain
  · next prop _ isProp => exact target prop isProp

/-- The props of a rendered node can all be written as attributes. -/
theorem named_resolve (rendered : env.component? node = some component) (named : seed.Named)
    (ran : (resolve env node seed).run before = .ok props after) : props.Named := by
  obtain ⟨authored, middle, first, ran⟩ := run_bind_eq_ok.mp ran
  have declared : ∀ name valueType, (env.propTypes node).get? name = some valueType →
      Unmarked name := by
    intro name valueType isType
    obtain ⟨argument, given, _⟩ := Environment.argument_of_propTypes rendered isType
    exact (bracketed.arguments name argument given).1
  -- Spreads are written under a name of their own; all other names come from the component.
  have namedFirst : authored.Named :=
    Follows.foldlM_keeps (renders_addEntry node (env.propTypes node))
      (fun _ _ _ _ _ _ _ ran _ named => named_addEntry declared named ran) first named
  rw [rendered, run_get_bind_eq_ok] at ran
  cases ran
  exact named_addDefaults bracketed (named_addCells bracketed _ namedFirst)

end ResolvedProps

namespace Markup

theorem balanced_runScript {script : RenderScript} {text : Text} (balanced : script.Balanced)
    (neutral : before.Neutral app) (ran : (runScript script).run before = .ok text after) :
    Balanced text := by
  induction script generalizing before with
  | done written =>
      cases ran
      exact balanced
  | importing source symbol suggestion next ih =>
      obtain ⟨name, middle, entered, ran⟩ := run_bind_eq_ok.mp ran
      obtain ⟨later, isName⟩ := neutral.addImport entered
      exact ih name (balanced name isName) later ran

/-- The slots of a node are named by the nodes in them. -/
theorem unmarked_slot {snapshot : Snapshot} (slots : ∀ node ∈ snapshot.nodes, Unmarked node.slot)
    {entry : Text × List Node} (member : entry ∈ snapshot.children node) : Unmarked entry.1 := by
  unfold Snapshot.children at member
  split at member
  · rw [List.mem_singleton.mp member]
    exact (by decide : Unmarked Node.contentSlot)
  · obtain ⟨slot, isSlot, rfl⟩ := List.mem_map.mp member
    obtain ⟨child, placed, rfl⟩ := List.mem_map.mp (List.mem_eraseDups.mp isSlot)
    exact slots child (List.mem_of_mem_filter placed)

theorem renders_renderWithin (env : Environment) (fuel : Nat) (node : Node) :
    Follows RenderMove (renderWithin env fuel node) :=
  .of_safe fun start => safe_renderWithin (renderRules_renders env start) fun _ => trivial

theorem renders_slotCode {render : Node → Compile Code}
    (follows : ∀ node, Follows RenderMove (render node)) (children : List Node) :
    Follows RenderMove (slotCode render children) :=
  .of_safe fun _ => safe_slotCode fun child _ before reached =>
    (follows child before).imp (fun _ _ moved => reached.trans moved) fun _ _ => trivial

theorem renders_renderSlots {render : Node → Compile Code}
    (follows : ∀ node, Follows RenderMove (render node)) (node : Node) :
    Follows RenderMove (renderSlots env render node) :=
  .of_safe fun _ => safe_renderSlots fun child _ before reached =>
    (follows child before).imp (fun _ _ moved => reached.trans moved) fun _ _ => trivial

/-- The step follows the moves of rendering and gives balanced code. -/
structure RendersBalanced (app : Option Text) (step : Compile Code) : Prop where
  follows : Follows RenderMove step
  balanced : ∀ before code after, before.Neutral app → step.run before = .ok code after →
    Balanced code.text

variable {render : Node → Compile Code} (each : ∀ node, RendersBalanced app (render node))
include each

theorem balanced_slotCode {children : List Node} {code : Option Code} (neutral : before.Neutral app)
    (ran : (slotCode render children).run before = .ok code after) : Code.AllBalanced code := by
  unfold slotCode at ran
  split at ran
  · cases ran
    exact fun _ given => nomatch given
  · obtain ⟨made, _, first, ran⟩ := run_bind_eq_ok.mp ran
    cases ran
    rintro _ ⟨⟩
    exact (each _).balanced _ made _ neutral first
  · obtain ⟨codes, _, first, ran⟩ := run_bind_eq_ok.mp ran
    cases ran
    rintro _ ⟨⟩
    refine .intercalate (Unmarked.balanced (by decide)) fun piece member => ?_
    obtain ⟨made, inCodes, rfl⟩ := List.mem_map.mp member
    have runs := Follows.forall₂_of_mapM (fun node => (each node).follows) first
    obtain ⟨child, _, start, stop, reached, ran, _⟩ := exists_of_mem_forall₂ runs.flip inCodes
    refine Code.balanced_asContent ?_
    rintro _ ⟨⟩
    exact (each child).balanced start made stop (neutral.renders reached) ran

/-- The child content of a node can be written into an element, with the markers of its slots. -/
theorem writable_renderSlots {component : Component} {props : Props}
    (rendered : env.component? node = some component) (bracketed : component.Bracketed)
    (runtime : env.editor = true → Unmarked env.runtimeName)
    (slots : ∀ node ∈ env.snapshot.nodes, Unmarked node.slot) (neutral : before.Neutral app)
    (ran : (renderSlots env render node).run before = .ok props after) : props.Writable := by
  unfold renderSlots at ran
  obtain ⟨filled, middle, first, ran⟩ := run_bind_eq_ok.mp ran
  have writable : filled.Writable := by
    refine Follows.foldlM_keeps (?follows : ∀ _ _, Follows RenderMove _) ?keeps first
      Props.writable_empty
    case follows =>
      intro props entry
      refine .bind (renders_slotCode (fun node => (each node).follows) entry.2) fun code => ?_
      split <;> exact .pure _
    case keeps =>
      intro props entry next start stop member reached ran _ writable
      obtain ⟨code, _, made, ran⟩ := run_bind_eq_ok.mp ran
      have isBalanced := balanced_slotCode each (neutral.renders reached) made
      split at ran
      · cases ran
        exact writable
      · cases ran
        exact writable.insert (unmarked_slot slots member) (isBalanced _ rfl)
  rw [rendered] at ran
  split at ran
  · next isEditor isRendered =>
      cases isRendered
      cases ran
      exact writable_markSlots (runtime isEditor) bracketed writable
  · cases ran
    exact writable

omit each

/-- From the leaves up, nodes are rendered to balanced code. -/
theorem rendersBalanced_renderWithin (bracketed : env.catalog.Bracketed)
    (runtime : env.editor = true → Unmarked env.runtimeName)
    (slots : ∀ node ∈ env.snapshot.nodes, Unmarked node.slot) (fuel : Nat) (node : Node) :
    RendersBalanced app (renderWithin env fuel node) := by
  refine ⟨renders_renderWithin env fuel node, fun before code after neutral ran => ?_⟩
  -- A rendering that ends well has fuel left at every node, so the induction is on the fuel and the
  -- children are rendered with one less.
  induction fuel generalizing node before code after with
  | zero => cases ran
  | succ fuel ih =>
      rw [renderWithin] at ran
      split at ran
      · cases ran
        exact Unmarked.balanced (by decide)
      · next component rendered =>
          have isBracketed := bracketed component (Environment.mem_catalog_of_component? rendered)
          have each : ∀ child, RendersBalanced app (renderWithin env fuel child) :=
            fun child => ⟨renders_renderWithin env fuel child, fun _ _ _ => ih _ _ _ _⟩
          obtain ⟨seed, filled, first, ran⟩ := run_bind_eq_ok.mp ran
          obtain ⟨props, resolved, second, ran⟩ := run_bind_eq_ok.mp ran
          obtain ⟨text, _, third, ran⟩ := run_bind_eq_ok.mp ran
          have isSeed := writable_renderSlots each rendered isBracketed runtime slots neutral first
          have filledNeutral := neutral.renders
            ((renders_renderSlots (fun child => (each child).follows) node before).of_ok first)
          have resolvedNeutral := filledNeutral.renders
            ((ResolvedProps.renders_resolve env node seed filled).of_ok second)
          have writable : props.Writable :=
            ⟨ResolvedProps.balanced_resolve bracketed isSeed.balanced filledNeutral second,
              ResolvedProps.named_resolve isBracketed rendered isSeed.named second⟩
          have isText := balanced_runScript (isBracketed.renders props writable) resolvedNeutral third
          split at ran
          · next isEditor =>
              cases ran
              have isTag : Unmarked (env.runtimeName ++ ".RuntimeStudioNode") :=
                List.forall_mem_append.mpr ⟨runtime isEditor, by decide⟩
              exact balanced_wrap isTag (by decide) isText
          · cases ran
            exact isText

theorem balanced_renderRoot {root : Text} (bracketed : env.catalog.Bracketed)
    (runtime : env.editor = true → Unmarked env.runtimeName)
    (slots : ∀ node ∈ env.snapshot.nodes, Unmarked node.slot) (neutral : before.Neutral app)
    (ran : (renderRoot env).run before = .ok root after) : Balanced root := by
  obtain ⟨code, _, made, ran⟩ := run_bind_eq_ok.mp ran
  cases ran
  refine Code.balanced_asExpression ?_
  rintro _ ⟨⟩
  exact (rendersBalanced_renderWithin bracketed runtime slots _ _).balanced _ code _ neutral made

end Markup

end PageCompiler
