/-
  Rendering a node again gives the same code and nothing new.

  Rendering looks at what collection has put into the tables and at the imports and loaders that it
  enters itself. The first it leaves as it is, and the second it finds again under the same key. So a
  step that ended well ends in the same way in all tables that hold these
  (`Compile.Repeats`), and only its warnings are reported once more.
-/
import PageCompiler.Proofs.Collection.Closure
import PageCompiler.Proofs.Rendering

namespace PageCompiler

/-! ## What rendering adds -/

/-- Names, loaders and imports are added at the end, and what is there stays. -/
structure Tables.Grows (before after : Tables) : Prop where
  names : before.scope.names <+: after.scope.names
  loaders : before.loaders.entries <+: after.loaders.entries
  sources : before.imports.modules.keys <+: after.imports.modules.keys
  symbols : ∀ source, ((before.imports.modules.get? source).getD .empty).entries <+:
    ((after.imports.modules.get? source).getD .empty).entries
  frozen : after.imports.frozen = before.imports.frozen

/-- Whatever a step of rendering finds in the earlier tables, it finds in the later ones. -/
structure Tables.Within (earlier later : Tables) : Prop
    extends earlier.SameCollected later, earlier.Keeps later where
  frozen : later.imports.frozen = earlier.imports.frozen

/-- The tables with further warnings. -/
def Tables.report (tables : Tables) (warnings : List Warning) : Tables :=
  { tables with warnings := tables.warnings ++ warnings }

variable {before middle after later : Tables} {warnings : List Warning}

theorem Tables.report_nil (tables : Tables) : tables.report [] = tables := by
  unfold report
  rw [List.append_nil]

theorem Tables.report_report (tables : Tables) (first second : List Warning) :
    (tables.report first).report second = tables.report (first ++ second) := by
  unfold report
  rw [List.append_assoc]

theorem RenderMove.grows (move : RenderMove before after) : before.Grows after := by
  cases move with
  | warn _ => exact ⟨List.prefix_rfl, List.prefix_rfl, List.prefix_rfl, fun _ => List.prefix_rfl, rfl⟩
  | @enter source symbol _ name absent _ =>
      refine ⟨List.prefix_append _ _, List.prefix_rfl, ?_, fun query => ?_, rfl⟩
      · show _ <+: (before.imports.modules.insert source _).keys
        rw [Table.keys_insert]
        split
        · exact List.prefix_rfl
        · exact List.prefix_append _ _
      · rw [ImportTable.symbols_enter absent]
        split
        · next same => rw [same]; exact List.prefix_append _ _
        · exact List.prefix_rfl
  | load absent _ =>
      refine ⟨List.prefix_append _ _, ?_, List.prefix_rfl, fun _ => List.prefix_rfl, rfl⟩
      rw [Table.entries_insert_of_absent _ absent]
      exact List.prefix_append _ _

theorem Renders.grows (moves : Renders before after) : before.Grows after := by
  induction moves with
  | refl => exact ⟨List.prefix_rfl, List.prefix_rfl, List.prefix_rfl, fun _ => List.prefix_rfl, rfl⟩
  | tail _ move ih =>
      have last := move.grows
      exact ⟨ih.names.trans last.names, ih.loaders.trans last.loaders,
        ih.sources.trans last.sources, fun source => (ih.symbols source).trans (last.symbols source),
        last.frozen.trans ih.frozen⟩

theorem Renders.within (moves : Renders before after) : before.Within after :=
  { moves.sameCollected, moves.keeps with frozen := moves.frozen_eq }

theorem Tables.SameCollected.trans (first : before.SameCollected middle)
    (second : middle.SameCollected after) : before.SameCollected after :=
  ⟨second.cells.trans first.cells, second.derived.trans first.derived,
    second.dependencies.trans first.dependencies, second.accessors.trans first.accessors⟩

theorem Tables.Within.trans (first : before.Within middle) (second : middle.Within after) :
    before.Within after :=
  { first.toSameCollected.trans second.toSameCollected with
    localNames := second.localNames ∘ first.localNames
    loaders := second.loaders ∘ first.loaders
    frozen := second.frozen.trans first.frozen }

/-- Warnings are not looked at. -/
theorem Tables.Within.report (within : before.Within after) (warnings : List Warning) :
    before.Within (after.report warnings) :=
  ⟨⟨within.cells, within.derived, within.dependencies, within.accessors⟩,
    ⟨within.localNames, within.loaders⟩, within.frozen⟩

namespace Compile

/-! ## Steps that repeat -/

variable {α β : Type}

/-- If the step ends well, it makes moves of rendering, and with the same value it ends again in all
    tables that hold what it left. There it changes nothing and reports the same warnings. -/
def Repeats (step : Compile α) : Prop :=
  ∀ before value after, step.run before = .ok value after →
    Renders before after ∧ ∃ reported, after.warnings = before.warnings ++ reported ∧
      ∀ later, after.Within later → step.run later = .ok value (later.report reported)

theorem Ends.run_eq {step : Compile α} {value : α}
    (ends : step.Ends before (fun result tables => result = value ∧ tables = after) fun _ => False) :
    step.run before = .ok value after := by
  obtain ⟨_, _, ran⟩ := ends.exists_ok fun _ never => never
  obtain ⟨rfl, rfl⟩ := ends.of_ok ran
  exact ran

namespace Repeats

theorem pure (value : α) : Repeats (Pure.pure value : Compile α) := by
  rintro before _ _ ⟨⟩
  refine ⟨.refl, [], (List.append_nil _).symm, fun later _ => ?_⟩
  rw [later.report_nil]
  rfl

theorem throw (failure : Failure) : Repeats (MonadExcept.throw failure : Compile α) :=
  fun _ _ _ ran => nomatch ran

theorem ofExcept (result : Except Failure α) : Repeats (Compile.ofExcept result) := by
  cases result with
  | ok value => exact .pure value
  | error failure => exact .throw failure

theorem bind {step : Compile α} {next : α → Compile β} (first : Repeats step)
    (then_ : ∀ value, Repeats (next value)) : Repeats (step >>= next) := by
  intro before value after ran
  obtain ⟨result, middle, passed, ran⟩ := run_bind_eq_ok.mp ran
  obtain ⟨moves, reported, isReported, again⟩ := first before result middle passed
  obtain ⟨others, reportedNext, isReportedNext, againNext⟩ := then_ result middle value after ran
  refine ⟨moves.trans others, reported ++ reportedNext, ?_, fun later within => ?_⟩
  · rw [isReportedNext, isReported, List.append_assoc]
  · rw [← later.report_report]
    exact run_bind_eq_ok.mpr ⟨result, later.report reported,
      again later (others.within.trans within), againNext _ (within.report reported)⟩

/-- A step may look at what was collected. -/
theorem get_bind {next : Tables → Compile β} (each : ∀ tables, Repeats (next tables))
    (same : ∀ {tables later}, Tables.SameCollected tables later → next later = next tables) :
    Repeats ((MonadState.get : Compile Tables) >>= next) := by
  intro before value after ran
  obtain ⟨moves, reported, isReported, again⟩ :=
    each before before value after (run_get_bind_eq_ok.mp ran)
  refine ⟨moves, reported, isReported, fun later within => run_get_bind_eq_ok.mpr ?_⟩
  rw [same (moves.sameCollected.trans within.toSameCollected)]
  exact again later within

theorem ite {condition : Prop} [Decidable condition] {yes no : Compile α} (first : Repeats yes)
    (second : Repeats no) : Repeats (if condition then yes else no) := by
  split
  · exact first
  · exact second

theorem foldlM {items : List β} {step : α → β → Compile α}
    (each : ∀ value item, Repeats (step value item)) (start : α) :
    Repeats (items.foldlM step start) := by
  induction items generalizing start with
  | nil => exact .pure start
  | cons item rest ih =>
      rw [List.foldlM_cons]
      exact .bind (each start item) ih

theorem mapM {items : List α} {step : α → Compile β} (each : ∀ item, Repeats (step item)) :
    Repeats (items.mapM step) := by
  induction items with
  | nil =>
      rw [List.mapM_nil]
      exact .pure []
  | cons item rest ih =>
      rw [List.mapM_cons]
      exact .bind (each item) fun _ => .bind ih fun _ => .pure _

end Repeats

theorem repeats_warn (warning : Warning) : Repeats (warn warning) := by
  rintro before _ _ ⟨⟩
  exact ⟨.single (.warn warning), [warning], rfl, fun _ _ => rfl⟩

/-- An import is entered once and found from then on. -/
theorem repeats_addImport (source symbol : Text) (suggestion : Option Text) :
    Repeats (addImport source symbol suggestion) := by
  intro before value after ran
  obtain ⟨moves, known⟩ := (ends_addImport_localName source symbol suggestion).of_ok ran
  have rest : (addImport source symbol suggestion).Ends before
      (fun _ after => after.warnings = before.warnings ∧ after.imports.frozen = false)
      fun _ => True := by
    rw [ends_addImport]
    split
    · trivial
    · next open_ =>
        rw [Bool.not_eq_true] at open_
        split <;> exact ⟨rfl, open_⟩
  obtain ⟨noWarning, unfrozen⟩ := rest.of_ok ran
  refine ⟨moves, [], by rw [noWarning, List.append_nil], fun later within => ?_⟩
  rw [later.report_nil]
  refine Ends.run_eq (ends_addImport.mpr ?_)
  rw [within.frozen, unfrozen, within.localNames known]
  exact ⟨rfl, rfl⟩

/-- So is a loader. -/
theorem repeats_useLoader (query : Text) : Repeats (useLoader query) := by
  intro before value after ran
  obtain ⟨moves, known⟩ := (ends_useLoader query).of_ok ran
  have noWarning : (useLoader query).Ends before
      (fun _ after => after.warnings = before.warnings) fun _ => True := by
    rw [ends_useLoader_iff]
    split <;> exact rfl
  refine ⟨moves, [], by rw [noWarning.of_ok ran, List.append_nil], fun later within => ?_⟩
  rw [later.report_nil]
  refine Ends.run_eq (ends_useLoader_iff.mpr ?_)
  rw [within.loaders known]
  exact ⟨rfl, rfl⟩

end Compile

open Compile

/-! ## Rendering repeats -/

namespace ResolvedProps

theorem repeats_addAuthored (node : Node) (props : Props) (name valueType : Text)
    (value : PropValue) : Repeats (addAuthored node props name valueType value) := by
  unfold addAuthored
  split
  · split
    · exact .ite (.pure _) (.bind (repeats_useLoader _) fun _ => .pure _)
    · exact .pure _
    · exact .throw _
  · split
    · exact .pure _
    · refine .get_bind (fun tables => .bind (.ofExcept _) fun _ => .pure _) fun same => ?_
      rw [templateCode_congr same]
    · refine .get_bind (fun tables => .pure _) fun same => ?_
      rw [readReference_congr same]
    · exact .bind (repeats_warn _) fun _ => .pure _

theorem repeats_addEntry (node : Node) (types : Table Text) (props : Props)
    (entry : Text × Option PropValue) : Repeats (addEntry node types props entry) := by
  unfold addEntry
  split
  · exact .ite (.pure _) (repeats_addAuthored _ _ _ _ _)
  · exact .pure _

theorem repeats_resolve (env : Environment) (node : Node) (seed : Props) :
    Repeats (resolve env node seed) := by
  refine .bind (.foldlM (fun props entry => repeats_addEntry node (env.propTypes node) props entry)
    seed) fun props => ?_
  split
  · exact .pure _
  · refine .get_bind (fun tables => .pure _) fun same => ?_
    rw [addCells_congr same]

end ResolvedProps

namespace Markup

theorem repeats_runScript (script : RenderScript) : Repeats (runScript script) := by
  induction script with
  | done text => exact .pure text
  | importing source symbol suggestion next ih => exact .bind (repeats_addImport _ _ _) ih

theorem repeats_slotCode {render : Node → Compile Code} (each : ∀ child, Repeats (render child))
    (children : List Node) : Repeats (slotCode render children) := by
  unfold slotCode
  split
  · exact .pure _
  · exact .bind (each _) fun _ => .pure _
  · exact .bind (.mapM each) fun _ => .pure _

theorem repeats_renderSlots {env : Environment} {render : Node → Compile Code}
    (each : ∀ child, Repeats (render child)) (node : Node) :
    Repeats (renderSlots env render node) := by
  refine .bind (.foldlM ?_ _) fun props => ?_
  · intro props entry
    refine .bind (repeats_slotCode each entry.2) fun code => ?_
    split <;> exact .pure _
  · split <;> exact .pure _

theorem repeats_renderWithin (env : Environment) (fuel : Nat) (node : Node) :
    Repeats (renderWithin env fuel node) := by
  induction fuel generalizing node with
  | zero => exact .throw .endless
  | succ fuel ih =>
      rw [renderWithin]
      split
      · exact .pure _
      · refine .bind (repeats_renderSlots ih node) fun slots => ?_
        refine .bind (ResolvedProps.repeats_resolve env node slots) fun props => ?_
        exact .bind (repeats_runScript _) fun text => .ite (.pure _) (.pure _)

/-- Rendering a node leaves what was collected as it is and adds to the names, the imports and the
    loaders. Rendering it again gives the same code and changes nothing, apart from reporting the same
    warnings once more. -/
theorem renderNode_again {env : Environment} {node : Node} {code : Code}
    (ran : (renderNode env node).run before = .ok code after) :
    before.SameCollected after ∧ before.Grows after ∧
      ∃ reported, after.warnings = before.warnings ++ reported ∧
        (renderNode env node).run after =
          .ok code { after with warnings := after.warnings ++ reported } := by
  obtain ⟨moves, reported, isReported, again⟩ := repeats_renderWithin env _ node before code after ran
  exact ⟨moves.sameCollected, moves.grows, reported, isReported, again after (Renders.within .refl)⟩

end Markup

/-- The page of the form can be rendered for the editor. -/
theorem Form.exists_rendered : ∃ env started collected code after,
    Environment.start document Catalog.builtin true page = .ok (env, started) ∧
      (Collection.collectPage env).run started = .ok () collected ∧
      (Markup.renderNode env page).run collected = .ok code after := by
  have checked : Environment.collectsSuch document Catalog.builtin true page (fun env collected =>
      ((Markup.renderNode env page).run' collected).isSome) = true := by decide +kernel
  obtain ⟨env, started, collected, start_ok, ran, rendered⟩ := Environment.exists_collected checked
  obtain ⟨code, after, renders⟩ := exists_run_of_run' rendered
  exact ⟨env, started, collected, code, after, start_ok, ran, renders⟩

theorem Markup.renderNode_again_form : ∃ env started collected code after,
    Environment.start Form.document Catalog.builtin true Form.page = .ok (env, started) ∧
      (Collection.collectPage env).run started = .ok () collected ∧
      (renderNode env Form.page).run collected = .ok code after ∧
      collected.SameCollected after ∧ collected.Grows after ∧
      ∃ reported, after.warnings = collected.warnings ++ reported ∧
        (renderNode env Form.page).run after =
          .ok code { after with warnings := after.warnings ++ reported } := by
  obtain ⟨env, started, collected, code, after, start_ok, gathered, ran⟩ := Form.exists_rendered
  exact ⟨env, started, collected, code, after, start_ok, gathered, ran, renderNode_again ran⟩

end PageCompiler
