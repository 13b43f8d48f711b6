/-
  Collecting a page once more changes nothing.

  A reference is answered in tables that hold the code it stands for and, if it leads from one derived
  node to another, the dependency between the two. Collecting a reference answers it, and it stays
  answered while the tables grow; collecting an answered reference finds every entry it would make,
  so it reports a warning at most. That holds on a cycle of derived nodes as well: a derived node that
  has its identifier is not entered a second time.

  The first run may start from any tables. What these hold need not have been asked for by the page.
-/
import PageCompiler.Proofs.Repeatability

namespace PageCompiler

open Collection DerivedOrder

/-- Writing the value that is there already. -/
theorem Table.insert_of_get? {α : Type} {table : Table α} {key : Text} {value : α}
    (found : table.get? key = some value) : table.insert key value = table := by
  refine Table.eq_of_get? ?_ fun query => ?_
  · rw [Table.keys_insert, if_pos (Table.mem_keys_iff.mpr ⟨value, found⟩)]
  · rw [Table.get?_insert]
    split
    · next same => rw [same, found]
    · rfl

namespace Environment

variable {env : Environment} {before after tables : Tables} {owner node target : Node}
  {reference : Text} {fuel : Nat}

/-! ## What a collected reference leaves behind -/

/-- The tables hold all that collecting a reference in a prop of `owner` enters. -/
structure Answered (env : Environment) (tables : Tables) (owner : Node) (reference : Text) :
    Prop where
  hasAccessor : ∀ {target}, env.target? reference = some target → target.isPage = false →
    env.HasAccessor tables reference
  depends : ∀ {target}, env.target? reference = some target → target.isDerived = true →
    owner.isDerived = true → target.id ∈ successors tables.dependencies owner.id

/-- All references of a node are answered. -/
def Settled (env : Environment) (tables : Tables) (node : Node) : Prop :=
  node.EachReference (env.Answered tables node)

theorem Answered.of_none (unknown : env.target? reference = none) :
    env.Answered tables owner reference := by
  constructor
  all_goals
    intro target named
    rw [unknown] at named
    cases named

theorem Answered.of_some (named : env.target? reference = some target)
    (has : target.isPage = false → env.HasAccessor tables reference)
    (depends : target.isDerived = true → owner.isDerived = true →
      target.id ∈ successors tables.dependencies owner.id) :
    env.Answered tables owner reference := by
  constructor
  all_goals
    intro other found
    cases named.symm.trans found
  · exact has
  · exact depends

theorem Answered.mono (answered : env.Answered before owner reference)
    (moves : env.Collects before after) : env.Answered after owner reference where
  hasAccessor named notPage := moves.hasAccessor (answered.hasAccessor named notPage)
  depends named isDerived ownerDerived :=
    moves.extends.dependencies (answered.depends named isDerived ownerDerived)

theorem Settled.mono (settled : env.Settled before node) (moves : env.Collects before after) :
    env.Settled after node := by
  intro prop member value same
  obtain ⟨references, read, answered⟩ := settled prop member value same
  exact ⟨references, read, fun reference inside => (answered reference inside).mono moves⟩

theorem collects_report (tables : Tables) (warnings : List Warning) :
    env.Collects tables (tables.report warnings) := by
  induction warnings generalizing tables with
  | nil =>
      rw [tables.report_nil]
      exact .refl
  | cons warning rest ih =>
      have later := ih (tables.report [warning])
      rw [tables.report_report] at later
      exact .head (.warn warning) later

/-! ## The first run -/

/-- Collecting each reference of a node in turn settles the node. -/
theorem settles_collectProps {collect : Text → Compile Unit}
    (each : ∀ reference tables, node.Refers reference →
      (collect reference).Ends tables
        (fun _ after => env.Collects tables after ∧ env.Answered after node reference)
        fun _ => True) :
    (collectProps collect node).Ends tables
      (fun _ after => env.Collects tables after ∧ env.Settled after node) fun _ => True :=
  ends_eachReference (fun _ => True) env.Collects
    (fun reference tables => env.Answered tables node reference) (fun _ => .refl)
    Relation.ReflTransGen.trans (fun _ _ => trivial) Answered.mono
    (fun reference tables refers _ => each reference tables refers) (fun _ _ _ _ => trivial) trivial

/-- A derived node keeps the identifier it has, and its own references are collected before the
    reference to it is answered. -/
theorem answers_collectDerived (reached : env.Reached owner) (refers : owner.Refers reference)
    (named : env.target? reference = some target) (isDerived : target.isDerived = true)
    (inner : ∀ reference tables, target.Refers reference →
      (collectReference env fuel (some target) reference).Ends tables
        (fun _ after => env.Collects tables after ∧ env.Answered after target reference)
        fun _ => True) :
    (collectDerived env fuel owner target reference).Ends tables
      (fun _ after => env.Collects tables after ∧ env.Answered after owner reference)
      fun _ => True := by
  have noted : ∀ {tables : Tables} {identifier : Text},
      tables.derived.get? target.id = some identifier →
      (noteRead owner target reference identifier).Ends tables
        (fun _ after => env.Collects tables after ∧ env.Answered after owner reference)
        fun _ => True := by
    intro tables identifier known
    refine (ends_noteRead reached refers named isDerived known).imp ?_ fun _ _ => trivial
    rintro _ after ⟨grown, has, depends⟩
    exact ⟨grown.collects, .of_some named (fun _ => has) fun _ => depends⟩
  rw [collectDerived, Compile.ends_bind, Compile.ends_addDerived]
  split
  · next identifier known => exact noted known
  · next absent =>
      intro identifier
      have opened := CollectMove.derived ⟨owner, reached, refers, named⟩ isDerived absent rfl
      simp only [if_true]
      rw [Compile.ends_bind]
      refine (settles_collectProps inner).imp ?_ fun _ failed => failed
      rintro _ middle ⟨moves, _⟩
      have known := moves.extends.derived
        (Table.get?_insert_self tables.derived target.id identifier)
      refine (noted known).imp ?_ fun _ failed => failed
      rintro _ after ⟨later, answered⟩
      exact ⟨.head opened (moves.trans later), answered⟩

/-- Collecting a reference answers it, if it does not fail. -/
theorem answers_collectReference (consistent : env.Consistent) (reached : env.Reached owner)
    (refers : owner.Refers reference) :
    (collectReference env fuel (some owner) reference).Ends tables
      (fun _ after => env.Collects tables after ∧ env.Answered after owner reference)
      fun _ => True := by
  induction fuel generalizing owner reference tables with
  | zero => trivial
  | succ fuel ih =>
      cases named : env.target? reference with
      | none =>
          rw [collectReference_of_none named]
          exact ⟨.single (.warn _), .of_none named⟩
      | some target =>
          rw [collectReference_of_some consistent named]
          split
          · next title kind =>
              refine ⟨.single (.warn _), .of_some named (fun notPage => ?_) fun isDerived => ?_⟩
              · simp [Node.isPage, kind] at notPage
              · simp [Node.isDerived, kind] at isDerived
          · next component kind =>
              have isElement : target.isElement = true := by simp [Node.isElement, kind]
              have needs : env.Needs reference target := ⟨owner, reached, refers, named⟩
              rw [Compile.ends_bind]
              refine (ends_readElement needs isElement).imp ?_ fun _ _ => trivial
              rintro code middle ⟨grown, reads, _⟩
              refine (ends_setAccessor needs reads).imp ?_ fun _ _ => trivial
              rintro _ after ⟨set, has, _⟩
              refine ⟨(grown.trans set).collects, .of_some named (fun _ => has) fun isDerived => ?_⟩
              simp [Node.isDerived, kind] at isDerived
          · next arguments kind =>
              have isDerived : target.isDerived = true := by simp [Node.isDerived, kind]
              exact answers_collectDerived reached refers named isDerived fun _ _ inner =>
                ih (.named reached refers named isDerived) inner

/-- Collecting a page settles every node below it. -/
theorem settles_collectPage {nodes : List Node} (consistent : env.Consistent)
    (walked : env.snapshot.descendants? env.page = some nodes) :
    (collectPage env).Ends tables (fun _ after => ∀ node ∈ nodes, env.Settled after node)
      fun _ => True := by
  rw [collectPage, walked]
  refine (Compile.ends_forM (fun _ => True) env.Collects (fun node tables => env.Settled tables node)
    (fun _ => .refl) Relation.ReflTransGen.trans (fun _ _ => trivial) Settled.mono ?_ trivial).imp
    (fun _ _ settled => settled.2) fun _ failed => failed
  intro node member tables _
  have placed : env.Reached node := .placed ((Snapshot.mem_descendants walked node).mp member)
  exact settles_collectProps fun _ _ refers => answers_collectReference consistent placed refers

end Environment

/-! ## The second run -/

namespace Compile

variable {α : Type} {step : Compile Unit} {tables : Tables}

/-- The step ends well and only reports warnings. -/
def Idle (step : Compile Unit) (tables : Tables) : Prop :=
  step.Ends tables (fun _ after => ∃ reported, after = tables.report reported) fun _ => False

namespace Idle

theorem of_same (ends : step.Ends tables (fun _ after => after = tables) fun _ => False) :
    Idle step tables :=
  ends.imp (fun _ _ same => ⟨[], by rw [same, tables.report_nil]⟩) fun _ failed => failed

theorem warn (warning : Warning) : Idle (Compile.warn warning) tables := ⟨[warning], rfl⟩

theorem exists_run (idle : Idle step tables) :
    ∃ reported, step.run tables = .ok () (tables.report reported) := by
  obtain ⟨_, after, ran⟩ := idle.exists_ok fun _ never => never
  obtain ⟨reported, rfl⟩ := idle.of_ok ran
  exact ⟨reported, ran⟩

/-- Passes that are idle whatever the earlier ones have reported. -/
theorem forM {items : List α} {step : α → Compile Unit}
    (each : ∀ item ∈ items, ∀ warnings, Idle (step item) (tables.report warnings)) :
    Idle (items.forM step) tables := by
  induction items generalizing tables with
  | nil => exact of_same rfl
  | cons item rest ih =>
      have first := each item List.mem_cons_self []
      rw [tables.report_nil] at first
      show (step item >>= fun _ => rest.forM step).Ends tables _ _
      rw [ends_bind]
      refine first.imp ?_ fun _ failed => failed
      rintro _ _ ⟨reported, rfl⟩
      have others : Idle (rest.forM step) (tables.report reported) := by
        refine ih fun other member warnings => ?_
        rw [tables.report_report]
        exact each other (List.mem_cons_of_mem _ member) _
      refine others.imp ?_ fun _ failed => failed
      rintro _ _ ⟨further, rfl⟩
      exact ⟨reported ++ further, tables.report_report reported further⟩

end Idle

theorem ends_setAccessor_of_known {reference code : Text}
    (found : tables.accessors.get? reference = some code) :
    (setAccessor reference code).Ends tables (fun _ after => after = tables) fun _ => False := by
  rw [setAccessor, ends_modify, Table.insert_of_get? found]

theorem ends_addDependency_of_known {id dependencyId : Text}
    (known : dependencyId ∈ successors tables.dependencies id) :
    (addDependency id dependencyId).Ends tables (fun _ after => after = tables) fun _ => False := by
  have listed : tables.dependencies.get? id = some (successors tables.dependencies id) := by
    unfold successors at known ⊢
    cases stored : tables.dependencies.get? id with
    | none => simp [stored] at known
    | some ids => rfl
  rw [addDependency, ends_modify]
  simp only [listed, Option.getD_some, if_pos known, Table.insert_of_get? listed]

end Compile

namespace Environment

open Compile (Idle)

variable {env : Environment} {tables : Tables} {owner node target : Node} {reference : Text}
  {fuel : Nat}

theorem idle_noteRead {identifier : Text}
    (depends : owner.isDerived = true → target.id ∈ successors tables.dependencies owner.id)
    (found : tables.accessors.get? reference =
      some (accessor identifier (Reference.path reference))) :
    Idle (noteRead owner target reference identifier) tables := by
  refine .of_same ?_
  unfold noteRead
  split
  · next ownerDerived =>
      rw [Compile.ends_bind]
      refine (Compile.ends_addDependency_of_known (depends ownerDerived)).imp ?_ fun _ failed => failed
      rintro _ _ rfl
      exact Compile.ends_setAccessor_of_known found
  · exact Compile.ends_setAccessor_of_known found

/-- Collecting an answered reference: its cell or identifier is known, and so are the entries made
    for it. -/
theorem idle_collectReference (consistent : env.Consistent)
    (answered : env.Answered tables owner reference) :
    Idle (collectReference env (fuel + 1) (some owner) reference) tables := by
  cases named : env.target? reference with
  | none =>
      rw [collectReference_of_none named]
      exact .warn _
  | some target =>
      rw [collectReference_of_some consistent named]
      split
      · exact .warn _
      · next component kind =>
          have isElement : target.isElement = true := by simp [Node.isElement, kind]
          obtain ⟨code, reads, found⟩ :=
            answered.hasAccessor named (Node.isPage_eq_false_of_isElement isElement)
          obtain ⟨cell, known, rfl⟩ := reads.cell named isElement
          refine .of_same ?_
          rw [Compile.ends_bind, elementAccessor, Compile.ends_bind, Compile.ends_get]
          simp only [known]
          exact Compile.ends_setAccessor_of_known found
      · next arguments kind =>
          have isDerived : target.isDerived = true := by simp [Node.isDerived, kind]
          obtain ⟨code, reads, found⟩ :=
            answered.hasAccessor named (Node.isPage_eq_false_of_isDerived isDerived)
          obtain ⟨identifier, known, rfl⟩ := reads.identifier named isDerived
          rw [Idle, collectDerived, Compile.ends_bind, Compile.ends_addDerived, known]
          exact idle_noteRead (answered.depends named isDerived) found

theorem idle_collectNode (consistent : env.Consistent) (settled : env.Settled tables node) :
    Idle (collectNode env node) tables := by
  refine .forM fun prop member warnings => ?_
  cases prop with
  | none => exact .of_same rfl
  | some value =>
      obtain ⟨references, read, answered⟩ := settled (some value) member value rfl
      rw [Idle, Compile.ends_bind, read]
      show Idle (references.forM (collect env (some node))) (tables.report warnings)
      refine .forM fun reference inside further => ?_
      rw [tables.report_report]
      exact idle_collectReference consistent
        ((answered reference inside).mono (collects_report tables _))

theorem idle_collectPage {nodes : List Node} (consistent : env.Consistent)
    (walked : env.snapshot.descendants? env.page = some nodes)
    (settled : ∀ node ∈ nodes, env.Settled tables node) : Idle (collectPage env) tables := by
  rw [collectPage, walked]
  exact .forM fun node member warnings =>
    idle_collectNode consistent ((settled node member).mono (collects_report tables warnings))

end Environment

/-- A page that has been collected, from any tables, can be collected again. That reports warnings and
    changes nothing else. -/
theorem collectPage_again {document : Document} {catalog : Catalog} {editor : Bool} {page : Node}
    {env : Environment} {started before after : Tables} (keyed : document.Keyed)
    (member : page ∈ document.values)
    (start_ok : Environment.start document catalog editor page = .ok (env, started))
    (ran : (collectPage env).run before = .ok () after) :
    ∃ reported, (collectPage env).run after =
      .ok () { after with warnings := after.warnings ++ reported } := by
  have consistent := Environment.consistent_of_start keyed member start_ok
  cases walked : env.snapshot.descendants? env.page with
  | none =>
      rw [collectPage, walked] at ran
      cases ran
  | some nodes =>
      have settled := (Environment.settles_collectPage consistent walked).of_ok ran
      exact (Environment.idle_collectPage consistent walked settled).exists_run

/-- The form is collected twice. -/
theorem collectPage_again_form : ∃ env started after reported,
    Environment.start Form.document Catalog.builtin false Form.page = .ok (env, started) ∧
      (collectPage env).run started = .ok () after ∧
      (collectPage env).run after =
        .ok () { after with warnings := after.warnings ++ reported } := by
  obtain ⟨env, started, after, start_ok, ran⟩ := Form.exists_collected
  obtain ⟨reported, again⟩ :=
    collectPage_again (by decide) List.mem_cons_self start_ok ran
  exact ⟨env, started, after, reported, start_ok, ran, again⟩

end PageCompiler
