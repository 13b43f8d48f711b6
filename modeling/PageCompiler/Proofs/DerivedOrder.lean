/-
  The order of derived values is sound: each id stands once, after all that it depends on.

  A visit appends ids to those that are finished. It never appends an id that is waiting on its path,
  so an id that is appended after its dependencies was not among them.
-/
import Mathlib.Data.List.Nodup
import PageCompiler.Compilation.DerivedOrder

namespace PageCompiler.DerivedOrder

variable {dependencies : Table (List Text)} {path finished after : List Text} {id : Text}

/-- No id stands twice, and each comes after all that it depends on. -/
structure Ordered (dependencies : Table (List Text)) (ids : List Text) : Prop where
  distinct : ids.Nodup
  earlier : ∀ {front id back}, ids = front ++ id :: back →
    ∀ next ∈ successors dependencies id, next ∈ front

theorem Ordered.nil : Ordered dependencies [] := by
  refine ⟨.nil, ?_⟩
  intro front id back empty
  cases front <;> cases empty

theorem Ordered.append (ordered : Ordered dependencies finished) (absent : id ∉ finished)
    (ready : ∀ next ∈ successors dependencies id, next ∈ finished) :
    Ordered dependencies (finished ++ [id]) := by
  refine ⟨List.nodup_append.mpr ⟨ordered.distinct, by simp, ?_⟩, ?_⟩
  · intro other member single isId
    rintro rfl
    rw [List.mem_singleton] at isId
    exact absent (isId ▸ member)
  · intro front other back split next depends
    -- Either the id is the new one at the end, or it was there before.
    rcases List.append_eq_append_iff.mp split with ⟨middle, isFront, rest⟩ | ⟨middle, isFinished, rest⟩
    · cases middle with
      | nil =>
          cases rest
          rw [isFront, List.append_nil]
          exact ready next depends
      | cons first middle => cases middle <;> cases rest
    · cases middle with
      | nil =>
          cases rest
          rw [isFinished, List.append_nil] at ready
          exact ready next depends
      | cons first middle =>
          cases rest
          exact ordered.earlier isFinished next depends

/-- What comes of visiting ids, with `path` waiting for them. -/
structure Visited (dependencies : Table (List Text)) (path finished ids after : List Text) :
    Prop where
  ordered : Ordered dependencies after
  keeps : finished ⊆ after
  avoids : ∀ {waiting}, waiting ∈ path → waiting ∈ after → waiting ∈ finished
  visits : ids ⊆ after

theorem Visited.refl (ordered : Ordered dependencies finished) :
    Visited dependencies path finished [] finished :=
  ⟨ordered, List.Subset.refl _, fun _ member => member, List.nil_subset _⟩

theorem Visited.trans {ids ids' middle : List Text}
    (first : Visited dependencies path finished ids middle)
    (second : Visited dependencies path middle ids' after) :
    Visited dependencies path finished (ids ++ ids') after where
  ordered := second.ordered
  keeps := List.Subset.trans first.keeps second.keeps
  avoids waits member := first.avoids waits (second.avoids waits member)
  visits := List.append_subset.mpr ⟨List.Subset.trans first.visits second.keeps, second.visits⟩

theorem visited_foldlM {visit : List Text → Text → Except (List Text) (List Text)}
    (each : ∀ {finished id after}, visit finished id = .ok after →
      Ordered dependencies finished → Visited dependencies path finished [id] after)
    {ids : List Text} (ran : ids.foldlM visit finished = .ok after)
    (ordered : Ordered dependencies finished) :
    Visited dependencies path finished ids after := by
  induction ids generalizing finished with
  | nil =>
      cases ran
      exact .refl ordered
  | cons id rest ih =>
      rw [List.foldlM_cons] at ran
      cases first : visit finished id with
      | error cycle =>
          rw [first] at ran
          cases ran
      | ok middle =>
          rw [first] at ran
          have visited := each first ordered
          exact visited.trans (ih ran visited.ordered)

theorem visited_visit {fuel : Nat} (ran : visit dependencies fuel path finished id = .ok after)
    (ordered : Ordered dependencies finished) :
    Visited dependencies path finished [id] after := by
  induction fuel generalizing path finished id after with
  | zero => cases ran
  | succ fuel ih =>
      rw [visit] at ran
      split at ran
      · next known =>
          cases ran
          exact ⟨ordered, List.Subset.refl _, fun _ member => member, by simpa using known⟩
      · next unknown =>
          split at ran
          · cases ran
          · next notWaiting =>
              cases below : (successors dependencies id).foldlM
                  (fun finished next => visit dependencies fuel (id :: path) finished next)
                  finished with
              | error cycle =>
                  rw [below] at ran
                  cases ran
              | ok middle =>
                  rw [below] at ran
                  cases ran
                  have visited := visited_foldlM ih below ordered
                  -- The id was waiting while its dependencies were visited, so they did not append it.
                  have absent : id ∉ middle :=
                    fun member => unknown (visited.avoids List.mem_cons_self member)
                  refine ⟨visited.ordered.append absent fun next member => visited.visits member,
                    ?_, ?_, ?_⟩
                  · exact fun other member => List.mem_append_left _ (visited.keeps member)
                  · intro waiting waits member
                    rcases List.mem_append.mp member with old | new
                    · exact visited.avoids (List.mem_cons_of_mem _ waits) old
                    · rw [List.mem_singleton] at new
                      exact absurd (new ▸ waits) notWaiting
                  · simp

/-- The order that is given holds every root, each id once and after all that it depends on. -/
theorem order_sound {roots ids : List Text} (ran : order roots dependencies = .ok ids) :
    Ordered dependencies ids ∧ roots ⊆ ids := by
  have visited : Visited dependencies [] [] roots ids := visited_foldlM visited_visit ran .nil
  exact ⟨visited.ordered, visited.visits⟩

/-- All ids of the order, or of the cycle if there is none, have the property. -/
def AllIds (property : Text → Prop) : Except (List Text) (List Text) → Prop
  | .ok ids => ∀ id ∈ ids, property id
  | .error cycle => ∀ id ∈ cycle, property id

theorem allIds_foldlM {property : Text → Prop}
    {visit : List Text → Text → Except (List Text) (List Text)}
    (each : ∀ {finished id}, (∀ other ∈ finished, property other) → property id →
      AllIds property (visit finished id))
    {ids : List Text} (all : ∀ other ∈ ids, property other)
    (done : ∀ other ∈ finished, property other) : AllIds property (ids.foldlM visit finished) := by
  induction ids generalizing finished with
  | nil => exact done
  | cons id rest ih =>
      rw [List.forall_mem_cons] at all
      have first := each done all.1
      rw [List.foldlM_cons]
      cases visited : visit finished id with
      | ok middle =>
          rw [visited] at first
          exact ih all.2 first
      | error cycle =>
          rw [visited] at first
          exact first

theorem allIds_cycleAt {property : Text → Prop} (waiting : ∀ other ∈ path, property other)
    (here : property id) : AllIds property (.error (cycleAt path id)) := by
  intro other member
  rw [cycleAt, List.cons_append, List.mem_cons, List.mem_append, List.mem_reverse,
    List.mem_singleton] at member
  rcases member with rfl | passed | rfl
  · exact here
  · exact waiting other (List.takeWhile_subset _ passed)
  · exact here

theorem allIds_visit {property : Text → Prop} {fuel : Nat}
    (closed : ∀ id, property id → ∀ next ∈ successors dependencies id, property next)
    (waiting : ∀ other ∈ path, property other) (done : ∀ other ∈ finished, property other)
    (here : property id) : AllIds property (visit dependencies fuel path finished id) := by
  induction fuel generalizing path finished id with
  | zero => exact allIds_cycleAt waiting here
  | succ fuel ih =>
      rw [visit]
      split
      · exact done
      · split
        · exact allIds_cycleAt waiting here
        · have below := allIds_foldlM
            (fun done => ih (List.forall_mem_cons.mpr ⟨here, waiting⟩) done) (closed id here) done
          cases visited : (successors dependencies id).foldlM
              (fun finished next => visit dependencies fuel (id :: path) finished next)
              finished with
          | ok middle =>
              rw [visited] at below
              exact List.forall_mem_append.mpr ⟨below, by simpa using here⟩
          | error cycle =>
              rw [visited] at below
              exact below

/-- What is ordered are the roots and what others depend on. -/
theorem allIds_order {property : Text → Prop} {roots : List Text}
    (closed : ∀ id, property id → ∀ next ∈ successors dependencies id, property next)
    (all : ∀ root ∈ roots, property root) : AllIds property (order roots dependencies) :=
  allIds_foldlM (fun done here => allIds_visit closed (by simp) done here) all (by simp)

end PageCompiler.DerivedOrder
