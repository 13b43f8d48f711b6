/-
  What is ordered, and what is reported as a cycle.

  The ids that wait for one another form a path along the dependencies that meets no id twice
  (`Waiting`). An id that is met again while it waits closes a cycle, so every cycle that is reported is
  one. The path never gets as long as the depth of the search allows: an id on it is a root or one that
  others depend on. On the other hand an order has no room for a cycle, as all that an id depends on,
  directly or not, comes before the id.
-/
import Mathlib.Data.List.Chain
import Mathlib.Logic.Relation
import PageCompiler.Proofs.Failures

namespace PageCompiler

namespace DerivedOrder

variable {dependencies : Table (List Text)} {roots ids path finished : List Text} {id next : Text}
  {fuel : Nat}

def Depends (dependencies : Table (List Text)) (id next : Text) : Prop :=
  next ∈ successors dependencies id

/-- A root, or what a root depends on, directly or not. -/
def Reached (dependencies : Table (List Text)) (roots : List Text) (id : Text) : Prop :=
  ∃ root ∈ roots, Relation.ReflTransGen (Depends dependencies) root id

/-- An id that is reached depends on itself, directly or not. -/
def Cyclic (dependencies : Table (List Text)) (roots : List Text) : Prop :=
  ∃ id, Reached dependencies roots id ∧ Relation.TransGen (Depends dependencies) id id

/-- Each id depends on the one after it, the last one is the first one, and no other is repeated. -/
def IsCycle (dependencies : Table (List Text)) (cycle : List Text) : Prop :=
  ∃ first middle, cycle = first :: middle ++ [first] ∧ (first :: middle).Nodup ∧
    cycle.IsChain (Depends dependencies)

/-- Each id waits for the one in front of it, and none waits twice. -/
structure Waiting (dependencies : Table (List Text)) (path : List Text) (id : Text) : Prop where
  distinct : path.Nodup
  chain : (id :: path).IsChain fun next waiting => Depends dependencies waiting next

theorem Waiting.nil (id : Text) : Waiting dependencies [] id := ⟨.nil, .singleton id⟩

theorem Waiting.cons (waiting : Waiting dependencies path id) (fresh : id ∉ path)
    (depends : Depends dependencies id next) : Waiting dependencies (id :: path) next :=
  ⟨List.nodup_cons.mpr ⟨fresh, waiting.distinct⟩, waiting.chain.cons_cons depends⟩

/-- An id that is met again while it waits closes a cycle. -/
theorem Waiting.isCycle (waiting : Waiting dependencies path id) (again : id ∈ path) :
    IsCycle dependencies (cycleAt path id) := by
  obtain ⟨front, rest, rfl, absent⟩ := List.eq_append_cons_of_mem again
  have cut : (front ++ id :: rest).takeWhile (· ≠ id) = front := by
    have others : ∀ other ∈ front, decide (other ≠ id) = true := by
      intro other member
      exact decide_eq_true fun same => absent (same ▸ member)
    rw [List.takeWhile_append_of_pos others, List.takeWhile_cons_of_neg (by simp), List.append_nil]
  refine ⟨id, front.reverse, by rw [cycleAt, cut], ?_, ?_⟩
  · rw [List.nodup_cons, List.mem_reverse, List.nodup_reverse]
    exact ⟨absent, (List.nodup_append.mp waiting.distinct).1⟩
  · have isReverse : cycleAt (front ++ id :: rest) id = (id :: (front ++ [id])).reverse := by
      rw [cycleAt, cut]
      simp
    have split : id :: (front ++ id :: rest) = id :: (front ++ [id]) ++ rest := by simp
    have chain := waiting.chain
    rw [split] at chain
    rw [isReverse, List.isChain_reverse]
    exact chain.left_of_append

theorem exists_of_foldlM_error {visit : List Text → Text → Except (List Text) (List Text)}
    {cycle : List Text} (failed : ids.foldlM visit finished = .error cycle) :
    ∃ id ∈ ids, ∃ middle, visit middle id = .error cycle := by
  induction ids generalizing finished with
  | nil => cases failed
  | cons id rest ih =>
      rw [List.foldlM_cons] at failed
      cases first : visit finished id with
      | error other =>
          rw [first] at failed
          cases failed
          exact ⟨id, List.mem_cons_self, finished, first⟩
      | ok middle =>
          rw [first] at failed
          obtain ⟨other, member, found⟩ := ih failed
          exact ⟨other, List.mem_cons_of_mem _ member, found⟩

/-- A depth that is enough for the rest of a path among the ids. -/
structure Enough (dependencies : Table (List Text)) (ids : List Text) (fuel : Nat)
    (path : List Text) (id : Text) : Prop where
  waiting : Waiting dependencies path id
  inside : id :: path ⊆ ids
  closed : ∀ {id next}, Depends dependencies id next → next ∈ ids
  deep : ids.length < fuel + path.length

theorem Enough.not_zero (enough : Enough dependencies ids 0 path id) : False := by
  have few := enough.waiting.distinct.length_le_of_subset (List.cons_subset.mp enough.inside).2
  have deep := enough.deep
  omega

theorem Enough.deeper (enough : Enough dependencies ids (fuel + 1) path id) (fresh : id ∉ path)
    (depends : Depends dependencies id next) :
    Enough dependencies ids fuel (id :: path) next where
  waiting := enough.waiting.cons fresh depends
  inside := List.cons_subset.mpr ⟨enough.closed depends, enough.inside⟩
  closed := enough.closed
  deep := by
    have deep := enough.deep
    rw [List.length_cons]
    omega

/-- A cycle that is reported is one. -/
theorem isCycle_of_visit {cycle : List Text} (enough : Enough dependencies ids fuel path id)
    (failed : visit dependencies fuel path finished id = .error cycle) :
    IsCycle dependencies cycle := by
  induction fuel generalizing path finished id with
  | zero => exact enough.not_zero.elim
  | succ fuel ih =>
      rw [visit] at failed
      split at failed
      · cases failed
      · split at failed
        · next again =>
            cases failed
            exact enough.waiting.isCycle again
        · next fresh =>
            cases below : (successors dependencies id).foldlM
                (fun finished next => visit dependencies fuel (id :: path) finished next)
                finished with
            | ok middle =>
                rw [below] at failed
                cases failed
            | error other =>
                rw [below] at failed
                cases failed
                obtain ⟨next, depends, middle, found⟩ := exists_of_foldlM_error below
                exact ih (enough.deeper fresh depends) found

/-- More depth changes nothing. -/
theorem visit_succ (enough : Enough dependencies ids fuel path id) :
    visit dependencies (fuel + 1) path finished id = visit dependencies fuel path finished id := by
  induction fuel generalizing path finished id with
  | zero => exact enough.not_zero.elim
  | succ fuel ih =>
      rw [visit, visit]
      by_cases known : id ∈ finished
      · rw [if_pos known, if_pos known]
      by_cases again : id ∈ path
      · rw [if_neg known, if_neg known, if_pos again, if_pos again]
      rw [if_neg known, if_neg known, if_neg again, if_neg again,
        foldlM_congr fun _ next depends => ih (enough.deeper again depends)]

/-- The roots and all that others depend on. -/
def known (roots : List Text) (dependencies : Table (List Text)) : List Text :=
  roots ++ dependencies.values.flatten

theorem mem_known_of_depends (depends : Depends dependencies id next) :
    next ∈ known roots dependencies := by
  refine List.mem_append_right _ (List.mem_flatten.mpr ?_)
  cases found : dependencies.get? id with
  | none =>
      rw [Depends, successors, found] at depends
      cases depends
  | some listed =>
      rw [Depends, successors, found] at depends
      exact ⟨listed, Table.mem_values_iff.mpr ⟨id, found⟩, depends⟩

theorem enough_of_root {root : Text} (member : root ∈ roots)
    (deep : pathBound roots dependencies ≤ fuel) :
    Enough dependencies (known roots dependencies) fuel [] root where
  waiting := .nil root
  inside := List.cons_subset.mpr ⟨List.mem_append_left _ member, List.nil_subset _⟩
  closed := mem_known_of_depends
  deep := by
    rw [pathBound] at deep
    rw [known, List.length_append, List.length_nil]
    omega

/-- Beyond the bound, the depth of the search has no part in what is ordered. -/
theorem order_eq_of_le (deep : pathBound roots dependencies ≤ fuel) :
    (roots.foldlM (fun finished root => visit dependencies fuel [] finished root) []) =
      order roots dependencies := by
  induction deep with
  | refl => rfl
  | @step fuel deep ih =>
      rw [← ih]
      exact foldlM_congr (fun _ root member => visit_succ (enough_of_root member deep)) []

theorem Ordered.mem_front (ordered : Ordered dependencies ids) {front back : List Text}
    (split : ids = front ++ id :: back)
    (depends : Relation.TransGen (Depends dependencies) id next) : next ∈ front := by
  induction depends with
  | single depends => exact ordered.earlier split _ depends
  | tail _ depends ih =>
      -- What a node in the front depends on stands in front of it.
      obtain ⟨before, behind, rfl⟩ := List.append_of_mem ih
      rw [List.append_assoc, List.cons_append] at split
      exact List.mem_append_left _ (ordered.earlier split _ depends)

theorem Ordered.not_depends_self (ordered : Ordered dependencies ids) (member : id ∈ ids) :
    ¬ Relation.TransGen (Depends dependencies) id id := by
  intro loop
  obtain ⟨front, back, rfl⟩ := List.append_of_mem member
  exact (List.nodup_append.mp ordered.distinct).2.2 id (ordered.mem_front rfl loop) id
    List.mem_cons_self rfl

/-- The ids of an order are those that are reached. -/
theorem Ordered.mem_iff (ordered : Ordered dependencies ids) (rooted : roots ⊆ ids)
    (all : ∀ id ∈ ids, Reached dependencies roots id) :
    id ∈ ids ↔ Reached dependencies roots id := by
  refine ⟨all id, ?_⟩
  rintro ⟨root, member, reached⟩
  induction reached with
  | refl => exact rooted member
  | tail _ depends ih =>
      obtain ⟨front, back, rfl⟩ := List.append_of_mem ih
      exact List.mem_append_left _ (ordered.earlier rfl _ depends)

/-- All ids of a cycle depend on one another. -/
theorem IsCycle.depends {cycle : List Text} (isCycle : IsCycle dependencies cycle) :
    ∃ first ∈ cycle, ∀ id ∈ cycle, Relation.TransGen (Depends dependencies) first id := by
  obtain ⟨first, middle, rfl, _, chain⟩ := isCycle
  have far : (first :: (middle ++ [first])).Pairwise (Relation.TransGen (Depends dependencies)) :=
    List.isChain_iff_pairwise.mp (chain.imp fun _ _ => .single)
  have behind := (List.pairwise_cons.mp far).1
  refine ⟨first, List.mem_cons_self, fun id member => ?_⟩
  rcases List.mem_cons.mp member with rfl | later
  · exact behind id (by simp)
  · exact behind id later

theorem IsCycle.exists_depends {cycle : List Text} (isCycle : IsCycle dependencies cycle)
    (member : id ∈ cycle) : ∃ waiting, Depends dependencies waiting id := by
  obtain ⟨first, _, depends⟩ := isCycle.depends
  cases depends id member with
  | single depends => exact ⟨first, depends⟩
  | tail _ depends => exact ⟨_, depends⟩

theorem allIds_reached (roots : List Text) (dependencies : Table (List Text)) :
    AllIds (Reached dependencies roots) (order roots dependencies) := by
  refine allIds_order ?_ fun root member => ⟨root, member, .refl⟩
  rintro id ⟨root, member, reached⟩ next depends
  exact ⟨root, member, reached.tail depends⟩

/-- There is an order, or there is a cycle to report. -/
inductive Sorts (dependencies : Table (List Text)) (roots : List Text) :
    Except (List Text) (List Text) → Prop
  | ordered {ids : List Text} : Ordered dependencies ids →
      (∀ id, id ∈ ids ↔ Reached dependencies roots id) → Sorts dependencies roots (.ok ids)
  | cyclic {cycle : List Text} : IsCycle dependencies cycle →
      (∀ id ∈ cycle, Reached dependencies roots id) → Sorts dependencies roots (.error cycle)

theorem sorts_order (roots : List Text) (dependencies : Table (List Text)) :
    Sorts dependencies roots (order roots dependencies) := by
  have reached := allIds_reached roots dependencies
  cases ran : order roots dependencies with
  | ok ids =>
      rw [ran] at reached
      obtain ⟨ordered, rooted⟩ := order_sound ran
      exact .ordered ordered fun _ => ordered.mem_iff rooted reached
  | error cycle =>
      rw [ran] at reached
      obtain ⟨root, member, _, failed⟩ := exists_of_foldlM_error ran
      exact .cyclic (isCycle_of_visit (enough_of_root member (Nat.le_refl _)) failed) reached

end DerivedOrder

namespace Declarations

open DerivedOrder

variable {env : Environment} {tables : Tables} {ids : List Text} {id : Text}

/-- What is ordered, or reported, of tables whose dependencies are nodes of the document. -/
inductive SortsDerived (env : Environment) (tables : Tables) : Except Failure (List Text) → Prop
  | ordered {ids : List Text} : Ordered tables.dependencies ids →
      (∀ id, id ∈ ids ↔ Reached tables.dependencies tables.derived.keys id) →
      SortsDerived env tables (.ok ids)
  | cyclic {cycle names : List Text} : IsCycle tables.dependencies cycle →
      (∀ id ∈ cycle, Reached tables.dependencies tables.derived.keys id) →
      Named env.document cycle names → SortsDerived env tables (.error (.derivedCycle names))

theorem sortsDerived_derivedOrder
    (known : ∀ id, ∀ next ∈ successors tables.dependencies id, next ∈ env.document.keys) :
    SortsDerived env tables (derivedOrder env tables) := by
  have sorts := sorts_order tables.derived.keys tables.dependencies
  rw [derivedOrder]
  cases ran : order tables.derived.keys tables.dependencies with
  | ok ids =>
      rw [ran] at sorts
      cases sorts with
      | ordered ordered reached => exact .ordered ordered reached
  | error cycle =>
      rw [ran] at sorts
      cases sorts with
      | cyclic isCycle reached =>
          have inDocument : ∀ id ∈ cycle, id ∈ env.document.keys := by
            intro id member
            obtain ⟨waiting, depends⟩ := isCycle.exists_depends member
            exact known waiting id depends
          obtain ⟨names, named, areNames⟩ := exists_names inDocument
          simp only [named]
          exact .cyclic isCycle reached areNames

theorem SortsDerived.ok_iff {outcome : Except Failure (List Text)}
    (sorts : SortsDerived env tables outcome) :
    (∃ ids, outcome = .ok ids) ↔ ¬ Cyclic tables.dependencies tables.derived.keys := by
  cases sorts with
  | ordered ordered reached =>
      refine ⟨?_, fun _ => ⟨_, rfl⟩⟩
      rintro _ ⟨id, isReached, loop⟩
      exact ordered.not_depends_self ((reached id).mpr isReached) loop
  | cyclic isCycle reached _ =>
      obtain ⟨first, member, depends⟩ := isCycle.depends
      refine ⟨?_, fun acyclic => absurd ⟨first, reached first member, depends first member⟩ acyclic⟩
      rintro ⟨_, isOk⟩
      cases isOk

/-- What is collected holds all that it depends on. -/
theorem reached_iff_of_collected (exactly : env.CollectedExactly tables) :
    Reached tables.dependencies tables.derived.keys id ↔ id ∈ tables.derived.keys := by
  refine ⟨?_, fun member => ⟨id, member, .refl⟩⟩
  rintro ⟨root, member, reached⟩
  induction reached with
  | refl => exact member
  | tail _ depends _ =>
      obtain ⟨owner, reference, target, ownerReached, _, _, refers, named, isDerived, isId⟩ :=
        (exactly.dependencies _ _).mp depends
      exact (exactly.derived _).mpr
        ⟨reference, target, ⟨owner, ownerReached, refers, named⟩, isDerived, isId⟩

/-- Derived values are put into an order of all that they depend on, or else a cycle among these is
    reported by the names of its nodes. Of a collected page they are ordered without one missing. -/
theorem derivedOrder_topological :
    (∀ (env : Environment) (tables : Tables),
      (∀ id, ∀ next ∈ successors tables.dependencies id, next ∈ env.document.keys) →
        SortsDerived env tables (derivedOrder env tables) ∧
        ((∃ ids, derivedOrder env tables = .ok ids) ↔
          ¬ Cyclic tables.dependencies tables.derived.keys) ∧
        ∀ fuel, pathBound tables.derived.keys tables.dependencies ≤ fuel →
          (tables.derived.keys.foldlM
            (fun finished root => visit tables.dependencies fuel [] finished root) []) =
            order tables.derived.keys tables.dependencies) ∧
    ∀ (document : Document) (catalog : Catalog) (editor : Bool) (page : Node) (env : Environment)
      (started collected : Tables), document.Keyed → page ∈ document.values →
      Environment.start document catalog editor page = .ok (env, started) →
      (Collection.collectPage env).run started = .ok () collected →
      ∀ ids, derivedOrder env collected = .ok ids → ids.Perm collected.derived.keys := by
  constructor
  · intro env tables known
    have sorts := sortsDerived_derivedOrder known
    exact ⟨sorts, sorts.ok_iff, fun _ deep => order_eq_of_le deep⟩
  · intro document catalog editor page env started collected keyed member start_ok ran ids ordered
    have consistent := Environment.consistent_of_start keyed member start_ok
    have isStarted := Environment.started_of_start start_ok
    have exactly := (isStarted.completed consistent ran).collectedExactly isStarted consistent
    have sorts := sorts_order collected.derived.keys collected.dependencies
    rw [order_of_derivedOrder ordered] at sorts
    cases sorts with
    | ordered isOrdered reached =>
        exact (List.perm_ext_iff_of_nodup isOrdered.distinct collected.derived.distinct).mpr
          fun id => (reached id).trans (reached_iff_of_collected exactly)

end Declarations

namespace Sums

def page : Node := ⟨"page", "page", .empty, none, none, none, .page []⟩

/-- Shows the total. -/
def label : Node :=
  ⟨"label", "label", .ofList [("value", some (.binding "total.sum"))], some "page", none, none,
    .element "Typography"⟩

/-- A derived node with one argument for each node that it is computed from. -/
def computed (id : Text) (sources : List Text) : Node :=
  ⟨id, id, .ofList (sources.map fun source => (source, some (.binding (source ++ ".sum")))), none,
    none, none, .derived (.ofList (sources.map fun source => (source, "number")))⟩

/-- The total is computed from two nodes that share a source. Two other nodes read one another. -/
def document : Document := .ofList [
  ("page", page), ("label", label), ("total", computed "total" ["left", "right"]),
  ("left", computed "left" ["base"]), ("right", computed "right" ["base"]),
  ("base", computed "base" []), ("ring", computed "ring" ["rung"]),
  ("rung", computed "rung" ["base", "ring"])]

def ordered : List Text := ["base", "left", "right", "total"]

/-- Tables in which the ring is asked for. -/
def ringed : Tables := { Tables.empty with
  derived := .ofList [("base", "base"), ("rung", "rung")]
  dependencies := .ofList [("rung", ["base", "ring"]), ("ring", ["rung"])] }

end Sums

namespace Declarations

theorem derivedOrder_topological_sums :
    (∃ env started collected ids,
      Environment.start Sums.document Catalog.builtin false Sums.page = .ok (env, started) ∧
        (Collection.collectPage env).run started = .ok () collected ∧
        derivedOrder env collected = .ok ids ∧ ids = Sums.ordered ∧
        ids.Perm collected.derived.keys) ∧
    ∃ env cycle names, env.document = Sums.document ∧
      derivedOrder env Sums.ringed = .error (.derivedCycle names) ∧
      DerivedOrder.IsCycle Sums.ringed.dependencies cycle ∧ Named Sums.document cycle names := by
  constructor
  · have checked : Environment.collectsSuch Sums.document Catalog.builtin false Sums.page
        (fun env collected => (derivedOrder env collected).toOption = some Sums.ordered) = true := by
      decide +kernel
    obtain ⟨env, started, collected, start_ok, ran, found⟩ := Environment.exists_collected checked
    cases isOrder : derivedOrder env collected with
    | error failure =>
        rw [isOrder] at found
        cases found
    | ok ids =>
        rw [isOrder] at found
        obtain rfl : ids = Sums.ordered := Option.some.inj (of_decide_eq_true found)
        exact ⟨env, started, collected, _, start_ok, ran, isOrder, rfl,
          derivedOrder_topological.2 _ _ _ _ env started collected (by decide) List.mem_cons_self
            start_ok ran _ isOrder⟩
  · obtain ⟨env, started, start_ok⟩ :=
      Environment.exists_start Sums.document Catalog.builtin false Sums.page
    have isDocument := (Environment.start_given start_ok).1
    have known : ∀ id, ∀ next ∈ DerivedOrder.successors Sums.ringed.dependencies id,
        next ∈ env.document.keys := by
      intro id next depends
      have all : ∀ next ∈ DerivedOrder.known [] Sums.ringed.dependencies,
          next ∈ Sums.document.keys := by decide
      rw [isDocument]
      exact all next (DerivedOrder.mem_known_of_depends depends)
    have loop : DerivedOrder.Cyclic Sums.ringed.dependencies Sums.ringed.derived.keys := by
      have there : DerivedOrder.Depends Sums.ringed.dependencies "rung" "ring" :=
        .tail _ (.head _)
      have back : DerivedOrder.Depends Sums.ringed.dependencies "ring" "rung" := .head _
      exact ⟨"rung", ⟨"rung", .tail _ (.head _), .refl⟩, .tail (.single there) back⟩
    obtain ⟨sorts, isOk, _⟩ := derivedOrder_topological.1 env Sums.ringed known
    cases ran : derivedOrder env Sums.ringed with
    | ok ids => exact absurd loop (isOk.mp ⟨ids, ran⟩)
    | error failure =>
        rw [ran] at sorts
        cases sorts with
        | cyclic isCycle _ named =>
            exact ⟨env, _, _, isDocument, ran, isCycle, isDocument ▸ named⟩

end Declarations

end PageCompiler
