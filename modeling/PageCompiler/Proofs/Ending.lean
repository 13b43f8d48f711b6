/-
  How a step of a compile can end.

  `Ends` says at once what holds if a step ends well and which failures it may end in; it follows the
  step from its first action to its last. `Follows` is for steps of which only the way they change
  the tables matters: each change is one move of a relation, and a step makes several of them.
-/
import Mathlib.Data.List.Forall2
import Mathlib.Logic.Relation
import PageCompiler.Compilation.Tables

namespace PageCompiler.Compile

variable {α β : Type} {before : Tables} {good : α → Tables → Prop} {bad : Failure → Prop}

/-- The step ends well, with a value and tables that are `good`, or in a failure that is `bad`. -/
def Ends (step : Compile α) (before : Tables) (good : α → Tables → Prop)
    (bad : Failure → Prop) : Prop :=
  match step.run before with
  | .ok value after => good value after
  | .error failure _ => bad failure

theorem ends_pure {value : α} : (pure value : Compile α).Ends before good bad ↔ good value before :=
  Iff.rfl

theorem ends_get {good : Tables → Tables → Prop} :
    (get : Compile Tables).Ends before good bad ↔ good before before :=
  Iff.rfl

theorem ends_modify {change : Tables → Tables} {good : Unit → Tables → Prop} :
    (modify change : Compile Unit).Ends before good bad ↔ good () (change before) :=
  Iff.rfl

theorem ends_allocate {suggestion : Text} {good : Text → Tables → Prop} :
    (allocate suggestion).Ends before good bad ↔
      good (freshName before.scope.names suggestion)
        { before with scope :=
          ⟨before.scope.names ++ [freshName before.scope.names suggestion]⟩ } :=
  Iff.rfl

theorem ends_ofExcept {result : Except Failure α} :
    (ofExcept result).Ends before good bad ↔
      match result with
      | .ok value => good value before
      | .error failure => bad failure := by
  cases result <;> exact Iff.rfl

theorem ends_bind {step : Compile α} {next : α → Compile β} {good : β → Tables → Prop} :
    (step >>= next).Ends before good bad ↔
      step.Ends before (fun value middle => (next value).Ends middle good bad) bad := by
  unfold Ends
  simp only [EStateM.run, bind, EStateM.bind]
  cases step before <;> exact Iff.rfl

theorem Ends.imp {step : Compile α} {good' : α → Tables → Prop} {bad' : Failure → Prop}
    (ends : step.Ends before good bad) (better : ∀ value after, good value after → good' value after)
    (worse : ∀ failure, bad failure → bad' failure) : step.Ends before good' bad' := by
  unfold Ends at ends ⊢
  split at ends
  · exact better _ _ ends
  · exact worse _ ends

theorem Ends.of_ok {step : Compile α} {value : α} {after : Tables}
    (ends : step.Ends before good bad) (ran : step.run before = .ok value after) :
    good value after := by
  simpa [Ends, ran] using ends

theorem Ends.exists_ok {step : Compile α} (ends : step.Ends before good bad)
    (never : ∀ failure, ¬ bad failure) : ∃ value after, step.run before = .ok value after := by
  unfold Ends at ends
  split at ends
  · next ran => exact ⟨_, _, ran⟩
  · exact absurd ends (never _)

/-- A new cell takes two names and one place in its table. -/
theorem ends_addCell_of_absent {nodeId nodeName prop : Text} {argument : Argument}
    {constant : Option Json} {good : Cell → Tables → Prop} (absent : before.cell? nodeId prop = none) :
    (addCell nodeId nodeName prop argument constant).Ends before good bad ↔
      let state := freshName before.scope.names (Identifier.camelCase [nodeName, prop])
      let setter := freshName (before.scope.names ++ [state])
        (Identifier.camelCase ["set", nodeName, prop])
      let cell : Cell := ⟨nodeId, prop, state, setter, constant.or argument.defaultValue⟩
      good cell
        { before with
          scope := ⟨before.scope.names ++ [state] ++ [setter]⟩
          cells := before.cells.insert (cellKey nodeId prop) cell } := by
  simp only [addCell, ends_bind, ends_get, absent, ends_allocate, ends_modify, ends_pure]

/-- A derived node that has its identifier keeps it; a new one takes a name. -/
theorem ends_addDerived {node : Node} {good : Text × Bool → Tables → Prop} :
    (addDerived node).Ends before good bad ↔
      match before.derived.get? node.id with
      | some identifier => good (identifier, false) before
      | none =>
          let identifier := freshName before.scope.names node.name
          good (identifier, true)
            { before with
              scope := ⟨before.scope.names ++ [identifier]⟩
              derived := before.derived.insert node.id identifier
              dependencies :=
                if before.dependencies.contains node.id then before.dependencies
                else before.dependencies.insert node.id [] } := by
  rw [addDerived, ends_bind, ends_get]
  cases before.derived.get? node.id with
  | some identifier => exact Iff.rfl
  | none => simp only [ends_bind, ends_allocate, ends_modify, ends_pure]

/-- A loop in which every pass lets the tables grow and makes something true of its item that stays
    true while they grow. -/
theorem ends_forM (ready : Tables → Prop) (grows : Tables → Tables → Prop)
    (holds : α → Tables → Prop) {items : List α} {step : α → Compile Unit}
    (refl : ∀ tables, grows tables tables)
    (trans : ∀ {first second third}, grows first second → grows second third → grows first third)
    (staysReady : ∀ {first second}, ready first → grows first second → ready second)
    (staysTrue : ∀ {item first second}, holds item first → grows first second → holds item second)
    (each : ∀ item ∈ items, ∀ tables, ready tables →
      (step item).Ends tables (fun _ after => grows tables after ∧ holds item after) bad)
    (start : ready before) :
    (items.forM step).Ends before
      (fun _ after => grows before after ∧ ∀ item ∈ items, holds item after) bad := by
  induction items generalizing before with
  | nil => exact ⟨refl before, by simp⟩
  | cons item rest ih =>
      change (step item >>= fun _ => rest.forM step).Ends before _ bad
      rw [ends_bind]
      refine (each item (by simp) before start).imp ?_ (fun _ failed => failed)
      rintro _ middle ⟨first, done⟩
      refine (ih (fun other member => each other (by simp [member]))
        (staysReady start first)).imp ?_ (fun _ failed => failed)
      rintro _ after ⟨later, others⟩
      refine ⟨trans first later, ?_⟩
      intro other member
      rcases List.mem_cons.mp member with rfl | below
      · exact staysTrue done later
      · exact others other below

theorem run_bind_eq_ok {step : Compile α} {next : α → Compile β} {value : β} {after : Tables} :
    (step >>= next).run before = .ok value after ↔
      ∃ first middle, step.run before = .ok first middle ∧
        (next first).run middle = .ok value after := by
  simp only [EStateM.run, bind, EStateM.bind]
  cases step before with
  | ok first middle =>
      constructor
      · exact fun ran => ⟨first, middle, rfl, ran⟩
      · rintro ⟨_, _, same, ran⟩
        cases same
        exact ran
  | error failure middle =>
      constructor
      · exact fun ran => nomatch ran
      · rintro ⟨_, _, same, _⟩
        cases same

/-- What a step that ends well leaves behind. -/
theorem run'_get {step : Compile α} {value : α} {after : Tables}
    (ran : step.run before = .ok value after) : (step *> get).run' before = some after := by
  have both : (step *> get).run before = .ok after after := by
    rw [seqRight_eq_bind]
    exact run_bind_eq_ok.mpr ⟨value, after, ran, rfl⟩
  unfold EStateM.run'
  rw [both]

/-- A step whose value can be computed and checked ends well. -/
theorem exists_run_of_any {step : Compile α} {check : α → Bool}
    (computed : (step.run' before).any check = true) :
    ∃ value after, step.run before = .ok value after ∧ check value = true := by
  unfold EStateM.run' at computed
  split at computed
  · next value after ran => exact ⟨value, after, ran, computed⟩
  · cases computed

theorem exists_run_of_run' {step : Compile α} (computed : (step.run' before).isSome = true) :
    ∃ value after, step.run before = .ok value after := by
  have checked : (step.run' before).any (fun _ => true) = true := by
    obtain ⟨value, found⟩ := Option.isSome_iff_exists.mp computed
    rw [found]
    rfl
  obtain ⟨value, after, ran, _⟩ := exists_run_of_any checked
  exact ⟨value, after, ran⟩

theorem run_get_bind_eq_ok {next : Tables → Compile β} {after : Tables} {value : β} :
    ((get : Compile Tables) >>= next).run before = .ok value after ↔
      (next before).run before = .ok value after :=
  Iff.rfl

theorem run_ofExcept_bind_eq_ok {result : Except Failure α} {next : α → Compile β}
    {after : Tables} {value : β} :
    (ofExcept result >>= next).run before = .ok value after ↔
      ∃ first, result = .ok first ∧ (next first).run before = .ok value after := by
  cases result with
  | ok first =>
      constructor
      · exact fun ran => ⟨first, rfl, ran⟩
      · rintro ⟨_, same, ran⟩
        cases same
        exact ran
  | error failure =>
      constructor
      · exact fun ran => nomatch ran
      · rintro ⟨_, same, _⟩
        cases same

/-- Whenever the step ends well, its changes to the tables are moves of the relation. -/
def Follows (move : Tables → Tables → Prop) (step : Compile α) : Prop :=
  ∀ before, step.Ends before (fun _ after => Relation.ReflTransGen move before after) fun _ => True

namespace Follows

variable {move : Tables → Tables → Prop}

theorem pure (value : α) : Follows move (Pure.pure value : Compile α) := fun _ => .refl

theorem bind {step : Compile α} {next : α → Compile β} (first : Follows move step)
    (then_ : ∀ value, Follows move (next value)) : Follows move (step >>= next) := by
  intro before
  rw [ends_bind]
  refine (first before).imp ?_ (fun _ failed => failed)
  intro value middle moved
  exact (then_ value middle).imp (fun _ _ later => moved.trans later) (fun _ failed => failed)

theorem foldlM {items : List β} {step : α → β → Compile α}
    (each : ∀ value item, Follows move (step value item)) (start : α) :
    Follows move (items.foldlM step start) := by
  induction items generalizing start with
  | nil => exact .pure start
  | cons item rest ih =>
      rw [List.foldlM_cons]
      exact .bind (each start item) ih

theorem mapM {items : List α} {step : α → Compile β} (each : ∀ item, Follows move (step item)) :
    Follows move (items.mapM step) := by
  induction items with
  | nil =>
      rw [List.mapM_nil]
      exact .pure []
  | cons item rest ih =>
      rw [List.mapM_cons]
      exact .bind (each item) fun _ => .bind ih fun _ => .pure _

/-- The values of a list and the moments at which they were made. -/
theorem forall₂_of_mapM {items : List α} {values : List β} {step : α → Compile β}
    {before after : Tables} (each : ∀ item, Follows move (step item))
    (ran : (items.mapM step).run before = .ok values after) :
    List.Forall₂ (fun item value => ∃ first second, Relation.ReflTransGen move before first ∧
      (step item).run first = .ok value second ∧ Relation.ReflTransGen move second after)
      items values := by
  induction items generalizing before values with
  | nil =>
      rw [List.mapM_nil] at ran
      cases ran
      exact .nil
  | cons item rest ih =>
      rw [List.mapM_cons] at ran
      obtain ⟨value, middle, first, ran⟩ := run_bind_eq_ok.mp ran
      obtain ⟨others, _, later, ran⟩ := run_bind_eq_ok.mp ran
      cases ran
      have moved := (each item before).of_ok first
      have movedLater := (Follows.mapM each middle).of_ok later
      refine .cons ⟨before, middle, .refl, first, movedLater⟩ ((ih later).imp ?_)
      rintro item value ⟨start, stop, reached, made, left⟩
      exact ⟨start, stop, moved.trans reached, made, left⟩

/-- What every pass of a loop keeps true, at whichever moment it runs, is true of the loop's value. -/
theorem foldlM_keeps {items : List β} {step : α → β → Compile α} {kept : α → Prop} {start value : α}
    {before after : Tables} (each : ∀ value item, Follows move (step value item))
    (keeps : ∀ value item next first second, item ∈ items →
      Relation.ReflTransGen move before first → (step value item).run first = .ok next second →
      Relation.ReflTransGen move second after → kept value → kept next)
    (ran : (items.foldlM step start).run before = .ok value after) (first : kept start) :
    kept value := by
  induction items generalizing start before with
  | nil =>
      rw [List.foldlM_nil] at ran
      cases ran
      exact first
  | cons item rest ih =>
      rw [List.foldlM_cons] at ran
      obtain ⟨next, middle, passed, ran⟩ := run_bind_eq_ok.mp ran
      have moved := (each start item before).of_ok passed
      have movedLater := (Follows.foldlM each next middle).of_ok ran
      refine ih ?_ ran (keeps start item next before middle (by simp) .refl passed movedLater first)
      intro value item next start stop member reached
      exact keeps value item next start stop (by simp [member]) (moved.trans reached)

end Follows

end PageCompiler.Compile
