/-
  Two compiles side by side.

  `Parallel` compares a step of a compile for the page alone with a step of a compile for the editor:
  whenever the first ends well, so does the second, and tables that stood beside each other still do.
  Values of the two need not be equal; what is known of them is a relation of their own. The rules for
  the ways of putting steps together do not depend on how tables are compared.
-/
import PageCompiler.Proofs.Safety

namespace PageCompiler.Compile

variable {α β γ δ : Type} {beside : Tables → Tables → Prop} {related : α → β → Prop}

/-- If the plain step ends well so does the other, with a related value and tables beside. -/
def Parallel (beside : Tables → Tables → Prop) (step : Compile α) (step' : Compile β)
    (related : α → β → Prop) : Prop :=
  ∀ before before', beside before before' → ∀ value after, step.run before = .ok value after →
    ∃ value' after', step'.run before' = .ok value' after' ∧ beside after after' ∧
      related value value'

namespace Parallel

theorem pure {value : α} {value' : β} (both : related value value') :
    Parallel beside (Pure.pure value) (Pure.pure value') related := by
  rintro before before' together _ _ ⟨⟩
  exact ⟨value', before', rfl, together, both⟩

theorem throw {failure : Failure} {step' : Compile β} :
    Parallel beside (MonadExcept.throw failure : Compile α) step' related := by
  rintro _ _ _ _ _ ⟨⟩

theorem imp {related' : α → β → Prop} {step : Compile α} {step' : Compile β}
    (parallel : Parallel beside step step' related)
    (weaker : ∀ value value', related value value' → related' value value') :
    Parallel beside step step' related' := by
  intro before before' together value after ran
  obtain ⟨value', after', ran', stay, both⟩ := parallel before before' together value after ran
  exact ⟨value', after', ran', stay, weaker _ _ both⟩

theorem bind {step : Compile α} {step' : Compile β} {next : α → Compile γ} {next' : β → Compile δ}
    {finally_ : γ → δ → Prop} (first : Parallel beside step step' related)
    (then_ : ∀ value value', related value value' →
      Parallel beside (next value) (next' value') finally_) :
    Parallel beside (step >>= next) (step' >>= next') finally_ := by
  intro before before' together last after ran
  obtain ⟨value, middle, ran, ranNext⟩ := run_bind_eq_ok.mp ran
  obtain ⟨value', middle', ran', stay, both⟩ := first before before' together value middle ran
  obtain ⟨last', after', ranNext', stay, both⟩ :=
    then_ value value' both middle middle' stay last after ranNext
  exact ⟨last', after', run_bind_eq_ok.mpr ⟨value', middle', ran', ranNext'⟩, stay, both⟩

theorem get_bind {next : Tables → Compile α} {next' : Tables → Compile β}
    (then_ : ∀ tables tables', beside tables tables' →
      Parallel beside (next tables) (next' tables') related) :
    Parallel beside ((MonadState.get : Compile Tables) >>= next)
      ((MonadState.get : Compile Tables) >>= next') related :=
  fun before before' together => then_ before before' together before before' together

/-- A look-up that succeeds for the page succeeds for the editor. -/
theorem ofExcept {result : Except Failure α} {result' : Except Failure β}
    (found : ∀ value, result = .ok value → ∃ value', result' = .ok value' ∧ related value value') :
    Parallel beside (Compile.ofExcept result) (Compile.ofExcept result') related := by
  cases result with
  | error failure => exact .throw
  | ok value =>
      obtain ⟨value', rfl, both⟩ := found value rfl
      exact .pure both

theorem of_ends {step : Compile α} {step' : Compile β}
    (each : ∀ before before', beside before before' →
      step.Ends before (fun value after =>
        step'.Ends before' (fun value' after' => beside after after' ∧ related value value')
          fun _ => False) fun _ => True) : Parallel beside step step' related := by
  intro before before' together value after ran
  have ends := (each before before' together).of_ok ran
  obtain ⟨value', after', ran'⟩ := ends.exists_ok fun _ never => never
  exact ⟨value', after', ran', ends.of_ok ran'⟩

/-- Steps of the two sides that are of no account for the other side. -/
theorem of_safe {step : Compile α} {step' : Compile β}
    (plain : ∀ tables', Safe (beside · tables') (fun _ => True) step)
    (edited : ∀ tables, Safe (beside tables ·) (fun _ => False) step') :
    Parallel beside step step' fun _ _ => True := by
  refine .of_ends fun before before' together => ?_
  refine (plain before' before together).imp (fun _ after stay => ?_) (fun _ failed => failed)
  exact (edited after before' stay).imp (fun _ _ stay => ⟨stay, trivial⟩) (fun _ never => never)

/-- A step that only the page takes. -/
theorem left {step : Compile α} {value' : β}
    (alone : ∀ before before', beside before before' →
      step.Ends before (fun value after => beside after before' ∧ related value value')
        fun _ => True) :
    Parallel beside step (Pure.pure value') related := by
  intro before before' together value after ran
  obtain ⟨stay, both⟩ := (alone before before' together).of_ok ran
  exact ⟨value', before', rfl, stay, both⟩

theorem ite {condition : Prop} [Decidable condition] {yes no : Compile α} {yes' no' : Compile β}
    (first : condition → Parallel beside yes yes' related)
    (second : ¬ condition → Parallel beside no no' related) :
    Parallel beside (if condition then yes else no) (if condition then yes' else no') related := by
  split
  · next holds => exact first holds
  · next fails => exact second fails

theorem foldlM {items : List γ} {step : α → γ → Compile α} {step' : β → γ → Compile β}
    (each : ∀ value value', ∀ item ∈ items, related value value' →
      Parallel beside (step value item) (step' value' item) related) {start : α} {start' : β}
    (both : related start start') :
    Parallel beside (items.foldlM step start) (items.foldlM step' start') related := by
  induction items generalizing start start' with
  | nil => exact .pure both
  | cons item rest ih =>
      rw [List.foldlM_cons, List.foldlM_cons]
      refine .bind (each start start' item List.mem_cons_self both) fun next next' => ih ?_
      exact fun value value' other member => each value value' other (.tail _ member)

theorem mapM {items : List γ} {step : γ → Compile α} {step' : γ → Compile β}
    (each : ∀ item ∈ items, Parallel beside (step item) (step' item) fun _ _ => True) :
    Parallel beside (items.mapM step) (items.mapM step') fun _ _ => True := by
  induction items with
  | nil =>
      rw [List.mapM_nil, List.mapM_nil]
      exact .pure trivial
  | cons item rest ih =>
      rw [List.mapM_cons, List.mapM_cons]
      refine .bind (each item List.mem_cons_self) fun _ _ _ => ?_
      refine .bind (ih fun other member => each other (.tail _ member)) fun _ _ _ => .pure trivial

theorem forM {items : List γ} {step step' : γ → Compile Unit}
    (each : ∀ item ∈ items, Parallel beside (step item) (step' item) fun _ _ => True) :
    Parallel beside (items.forM step) (items.forM step') fun _ _ => True := by
  induction items with
  | nil => exact .pure trivial
  | cons item rest ih =>
      refine .bind (each item List.mem_cons_self) fun _ _ _ => ?_
      exact ih fun other member => each other (.tail _ member)

end Parallel

end PageCompiler.Compile
