/-
  The order of derived values: each after those it depends on, or a cycle if there is none.
-/
import PageCompiler.Table

namespace PageCompiler.DerivedOrder

/-- The ids that an id depends on directly. -/
def successors (dependencies : Table (List Text)) (id : Text) : List Text :=
  (dependencies.get? id).getD []

/-- The part of a path from an id on, oldest first, with the id again at its end. The path is given
    latest first. -/
def cycleAt (path : List Text) (id : Text) : List Text :=
  id :: (path.takeWhile (· ≠ id)).reverse ++ [id]

/-- Appends an id to the finished ones, after all that it depends on. `path` are the ids that are
    waiting for it, latest first; to meet one of them again is a cycle. -/
def visit (dependencies : Table (List Text)) :
    Nat → List Text → List Text → Text → Except (List Text) (List Text)
  | 0, path, _, id => .error (cycleAt path id)
  | fuel + 1, path, finished, id =>
      if id ∈ finished then .ok finished
      else if id ∈ path then .error (cycleAt path id)
      else do
        let finished ← (successors dependencies id).foldlM
          (fun finished next => visit dependencies fuel (id :: path) finished next) finished
        return finished ++ [id]

/-- More than the number of ids that can wait for each other. -/
def pathBound (roots : List Text) (dependencies : Table (List Text)) : Nat :=
  roots.length + dependencies.keys.length + dependencies.values.flatten.length + 1

/-- The ids reachable from the roots, each after those it depends on, or the ids of a cycle with
    its first one again at its end. -/
def order (roots : List Text) (dependencies : Table (List Text)) :
    Except (List Text) (List Text) :=
  roots.foldlM (fun finished root =>
    visit dependencies (pathBound roots dependencies) [] finished root) []

end PageCompiler.DerivedOrder
