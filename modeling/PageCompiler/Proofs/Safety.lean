/-
  Steps that keep tables ready and fail in known ways only.

  A safe step leads from ready tables to ready tables, and a failure in which it ends is a bad one.
  Rendering is put together from very few actions: it warns, loads a query and asks for an import.
  What these have to fulfil is said once (`RenderRules`), and then every function from a single prop
  up to a whole page is safe. What ready tables are and which failures are bad is left open: the
  moves of rendering, the suggestions behind names and the failures of a compile are all read off
  the same chain of lemmas.
-/
import PageCompiler.Compilation.Declarations
import PageCompiler.Proofs.Descent
import PageCompiler.Proofs.Ending

namespace PageCompiler

namespace Compile

variable {α β : Type} {ready : Tables → Prop} {bad : Failure → Prop}

/-- Ready tables stay ready, and if the step fails the failure is bad. -/
def Safe (ready : Tables → Prop) (bad : Failure → Prop) (step : Compile α) : Prop :=
  ∀ before, ready before → step.Ends before (fun _ after => ready after) bad

namespace Safe

theorem pure (value : α) : Safe ready bad (Pure.pure value : Compile α) :=
  fun _ isReady => isReady

theorem throw {failure : Failure} (isBad : bad failure) :
    Safe ready bad (MonadExcept.throw failure : Compile α) :=
  fun _ _ => isBad

theorem ofExcept {result : Except Failure α} (isBad : ∀ failure, result = .error failure → bad failure) :
    Safe ready bad (Compile.ofExcept result) := by
  cases result with
  | ok value => exact .pure value
  | error failure => exact .throw (isBad failure rfl)

theorem bind {step : Compile α} {next : α → Compile β} (first : Safe ready bad step)
    (then_ : ∀ value, Safe ready bad (next value)) : Safe ready bad (step >>= next) := by
  intro before isReady
  rw [ends_bind]
  refine (first before isReady).imp ?_ (fun _ failed => failed)
  intro value middle stillReady
  exact then_ value middle stillReady

/-- The tables that a step looks at are ready. -/
theorem get_bind {next : Tables → Compile β}
    (then_ : ∀ tables, ready tables → Safe ready bad (next tables)) :
    Safe ready bad ((MonadState.get : Compile Tables) >>= next) :=
  fun before isReady => then_ before isReady before isReady

/-- A step that goes on with a looked-up value goes on with one that was found. -/
theorem ofExcept_bind {result : Except Failure α} {next : α → Compile β}
    (isBad : ∀ failure, result = .error failure → bad failure)
    (then_ : ∀ value, result = .ok value → Safe ready bad (next value)) :
    Safe ready bad (Compile.ofExcept result >>= next) := by
  cases result with
  | ok value => exact then_ value rfl
  | error failure => exact fun _ _ => isBad failure rfl

theorem ite {condition : Prop} [Decidable condition] {yes no : Compile α}
    (first : Safe ready bad yes) (second : Safe ready bad no) :
    Safe ready bad (if condition then yes else no) := by
  split
  · exact first
  · exact second

theorem foldlM {items : List β} {step : α → β → Compile α}
    (each : ∀ value, ∀ item ∈ items, Safe ready bad (step value item)) (start : α) :
    Safe ready bad (items.foldlM step start) := by
  induction items generalizing start with
  | nil => exact .pure start
  | cons item rest ih =>
      rw [List.foldlM_cons]
      exact .bind (each start item List.mem_cons_self)
        (ih fun value other member => each value other (.tail _ member))

theorem mapM {items : List α} {step : α → Compile β}
    (each : ∀ item ∈ items, Safe ready bad (step item)) : Safe ready bad (items.mapM step) := by
  induction items with
  | nil =>
      rw [List.mapM_nil]
      exact .pure []
  | cons item rest ih =>
      rw [List.mapM_cons]
      refine .bind (each item List.mem_cons_self) fun _ => .bind (ih ?_) fun _ => .pure _
      exact fun other member => each other (.tail _ member)

end Safe

/-- Safe from every start on, in the sense of moves. -/
theorem Follows.of_safe {move : Tables → Tables → Prop} {step : Compile α}
    (safe : ∀ start, Safe (Relation.ReflTransGen move start) (fun _ => True) step) :
    Follows move step :=
  fun before => safe before before .refl

end Compile

/-- The script asks for an import, whatever aliases it is given on the way there. -/
inductive RenderScript.Asks (source symbol : Text) (suggestion : Option Text) : RenderScript → Prop
  | now {next : Text → RenderScript} :
      Asks source symbol suggestion (.importing source symbol suggestion next)
  | later {otherSource otherSymbol name : Text} {otherSuggestion : Option Text}
      {next : Text → RenderScript} :
      Asks source symbol suggestion (next name) →
      Asks source symbol suggestion (.importing otherSource otherSymbol otherSuggestion next)

/-- The imports that rendering asks for: those of components, the modules of derived values and the
    hook of data loaders. -/
inductive Environment.AsksFor (env : Environment) : Text → Text → Option Text → Prop
  | script {node : Node} {component : Component} {props : Props} {source symbol : Text}
      {suggestion : Option Text} :
      env.component? node = some component →
      (component.render props).Asks source symbol suggestion →
      AsksFor env source symbol suggestion
  | getter {id : Text} {node : Node} :
      env.document.get? id = some node → node.isDerived = true →
      AsksFor env (Declarations.derivedModule node.id) ImportTable.defaultSymbol
        (some (Identifier.camelCase [node.name, "getter"]))
  | hook : AsksFor env Declarations.queryModule Declarations.queryHook (some Declarations.queryHook)

open Compile

/-- What resolving props asks of tables and failures. -/
structure PropRules (ready : Tables → Prop) (bad : Failure → Prop) : Prop where
  warn : ∀ warning, Safe ready bad (warn warning)
  load : ∀ query, Safe ready bad (useLoader query)
  template : ∀ error, bad (.template error)
  directive : ∀ name, bad (.format (.unknownDirective name))
  query : ∀ nodeName prop, bad (.queryBound nodeName prop)

/-- What rendering asks of tables and failures. -/
structure RenderRules (env : Environment) (ready : Tables → Prop) (bad : Failure → Prop) : Prop
    extends PropRules ready bad where
  enter : ∀ source symbol suggestion, env.AsksFor source symbol suggestion →
    Safe ready bad (addImport source symbol suggestion)

theorem Template.firstUnresolved?_resolve (lookup : Text → Text) (parts : List TemplatePart) :
    firstUnresolved? (resolve (some ∘ lookup) parts) = none := by
  refine List.findSome?_eq_none_iff.mpr fun part member => ?_
  obtain ⟨source, _, rfl⟩ := List.mem_map.mp member
  cases source <;> rfl

theorem Template.format_eq_error {hint : Option Text} {lookup : Text → Text}
    {parts : List TemplatePart} {error : FormatError}
    (failed : format hint (resolve (some ∘ lookup) parts) = .error error) :
    error = .unknownDirective (hint.getD []) := by
  rw [format, firstUnresolved?_resolve] at failed
  split at failed <;> simp_all

variable {env : Environment} {ready : Tables → Prop} {bad : Failure → Prop}

namespace ResolvedProps

/-- A template fails because it cannot be read or because its directive is not known. Its references
    always have code. -/
theorem templateCode_eq_error {tables : Tables} {text : Text} {format : Option Text}
    {failure : Failure} (failed : templateCode tables text format = .error failure) :
    (∃ error, failure = .template error) ∨ ∃ name, failure = .format (.unknownDirective name) := by
  unfold templateCode at failed
  split at failed
  · cases failed
    exact .inl ⟨_, rfl⟩
  · split at failed
    · cases failed
    · next unknown =>
        cases failed
        rw [Template.format_eq_error unknown]
        exact .inr ⟨_, rfl⟩

theorem safe_addAuthored (rules : PropRules ready bad) (node : Node) (props : Props)
    (name valueType : Text) (value : PropValue) :
    Safe ready bad (addAuthored node props name valueType value) := by
  unfold addAuthored
  split
  · split
    · exact .ite (.pure _) (.bind (rules.load _) fun _ => .pure _)
    · exact .pure _
    · exact .throw (rules.query _ _)
  · split
    · exact .pure _
    · refine .get_bind fun tables _ => .bind (.ofExcept ?_) fun _ => .pure _
      intro failure failed
      rcases templateCode_eq_error failed with ⟨error, rfl⟩ | ⟨name, rfl⟩
      · exact rules.template error
      · exact rules.directive name
    · exact .get_bind fun _ _ => .pure _
    · exact .bind (rules.warn _) fun _ => .pure _

theorem safe_addEntry (rules : PropRules ready bad) (node : Node) (types : Table Text)
    (props : Props) (entry : Text × Option PropValue) :
    Safe ready bad (addEntry node types props entry) := by
  unfold addEntry
  split
  · exact .ite (.pure _) (safe_addAuthored rules _ _ _ _ _)
  · exact .pure _

theorem safe_addAllAuthored (rules : PropRules ready bad) (env : Environment) (node : Node)
    (seed : Props) : Safe ready bad (addAllAuthored env node seed) :=
  .foldlM (fun props entry _ => safe_addEntry rules node (env.propTypes node) props entry) seed

theorem safe_resolve (rules : PropRules ready bad) (env : Environment) (node : Node) (seed : Props) :
    Safe ready bad (resolve env node seed) := by
  refine .bind (safe_addAllAuthored rules env node seed) fun props => ?_
  split
  · exact .pure _
  · exact .get_bind fun _ _ => .pure _

end ResolvedProps

namespace Markup

theorem safe_runScript {script : RenderScript}
    (each : ∀ source symbol suggestion, script.Asks source symbol suggestion →
      Safe ready bad (addImport source symbol suggestion)) :
    Safe ready bad (runScript script) := by
  induction script with
  | done text => exact .pure text
  | importing source symbol suggestion next ih =>
      refine .bind (each source symbol suggestion .now) fun name => ih name ?_
      exact fun otherSource otherSymbol otherSuggestion asks => each _ _ _ (.later asks)

theorem safe_slotCode {render : Node → Compile Code} {children : List Node}
    (each : ∀ child ∈ children, Safe ready bad (render child)) :
    Safe ready bad (slotCode render children) := by
  unfold slotCode
  split
  · exact .pure _
  · exact .bind (each _ (List.mem_singleton_self _)) fun _ => .pure _
  · exact .bind (.mapM each) fun _ => .pure _

theorem safe_renderSlots {render : Node → Compile Code} {node : Node}
    (each : ∀ child ∈ env.snapshot.childList node, Safe ready bad (render child)) :
    Safe ready bad (renderSlots env render node) := by
  refine .bind (.foldlM ?_ _) fun props => ?_
  · intro props entry member
    refine .bind (safe_slotCode fun child inSlot => each child ?_) fun code => ?_
    · exact List.mem_flatMap.mpr ⟨entry, member, inSlot⟩
    · split <;> exact .pure _
  · split <;> exact .pure _

/-- Rendering down to a depth is endless only if a walk down to that depth does not end. -/
theorem safe_renderWithin (rules : RenderRules env ready bad) {fuel : Nat} {node : Node}
    (endless : env.snapshot.descendantsWithin fuel node = none → bad .endless) :
    Safe ready bad (renderWithin env fuel node) := by
  induction fuel generalizing node with
  | zero => exact .throw (endless rfl)
  | succ fuel ih =>
      rw [renderWithin]
      split
      · exact .pure _
      · next component rendered =>
          refine .bind (safe_renderSlots fun child member => ih fun lost => endless ?_) fun slots => ?_
          · exact Snapshot.descendantsWithin_eq_none_of_mem member lost
          · refine .bind (ResolvedProps.safe_resolve rules.toPropRules env node slots) fun props => ?_
            refine .bind (safe_runScript fun _ _ _ asks => rules.enter _ _ _ (.script rendered asks))
              fun text => ?_
            exact .ite (.pure _) (.pure _)

theorem safe_renderRoot (rules : RenderRules env ready bad)
    (endless : env.snapshot.descendants? env.page = none → bad .endless) :
    Safe ready bad (renderRoot env) :=
  .bind (safe_renderWithin rules endless) fun _ => .pure _

end Markup

namespace Declarations

theorem node_of_required {document : Document} {id : Text} {node : Node}
    (known : (document.node id >>= Node.requireDerived) = .ok node) :
    document.get? id = some node ∧ node.isDerived = true := by
  unfold Document.node at known
  cases found : document.get? id with
  | none =>
      rw [found] at known
      cases known
  | some other =>
      rw [found] at known
      change other.requireDerived = _ at known
      unfold Node.requireDerived at known
      split at known
      · next isDerived =>
          cases known
          exact ⟨rfl, isDerived⟩
      · cases known

/-- The line of a derived node is safe if the node is there and has an identifier, or if to miss one
    of the two is bad. -/
theorem safe_derivedLine (rules : RenderRules env ready bad) {id : Text}
    (missing : ∀ failure, env.document.node id >>= Node.requireDerived = .error failure → bad failure)
    (unnamed : ∀ tables, ready tables → tables.derived.get? id = none → bad (.derivedUnnamed id)) :
    Safe ready bad (derivedLine env id) := by
  refine .ofExcept_bind missing fun node found => ?_
  obtain ⟨stored, isDerived⟩ := node_of_required found
  refine .bind (ResolvedProps.safe_resolve rules.toPropRules env node .empty) fun props => ?_
  refine .bind (rules.enter _ _ _ (.getter stored isDerived)) fun getter => .get_bind ?_
  intro tables isReady
  split
  · next absent => exact .throw (unnamed tables isReady absent)
  · exact .pure _

theorem safe_loaderLines (rules : RenderRules env ready bad) : Safe ready bad loaderLines := by
  refine .get_bind fun tables _ => .ite (.pure _) ?_
  exact .bind (rules.enter _ _ _ .hook) fun _ => .get_bind fun _ _ => .pure _

end Declarations

end PageCompiler
