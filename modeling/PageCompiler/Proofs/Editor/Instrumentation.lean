/-
  What rendering for the editor adds is of no account for the tables.

  Markers of slots come before the props of the document, so a prop whose slot is marked is not resolved
  for the editor. That leaves out code, and failures with it, but no data loader: only arguments that
  hold elements are marked, and these are no queries (`Ahead`). All else is done on both sides.
-/
import PageCompiler.Proofs.Collection.Coverage
import PageCompiler.Proofs.Editor.Twins
import PageCompiler.Proofs.WrittenProps

namespace PageCompiler

open Compile Tables

/-- The environment of the same page for the editor. -/
def Environment.edited (env : Environment) : Environment :=
  { env with editor := true, runtimeName := runtimeAlias }

variable {strict : Prop} {app : Text} {env : Environment}

namespace Collection

end Collection

namespace ResolvedProps

/-- For the editor more props are taken, but none that names a query. -/
structure Ahead (types : Table Text) (plain edited : Props) : Prop where
  more : ∀ name, plain.contains name = true → edited.contains name = true
  queries : ∀ name, types.get? name = some queryType → edited.contains name = plain.contains name

namespace Ahead

variable {types : Table Text} {plain edited : Props}

theorem refl (props : Props) : Ahead types props props := ⟨fun _ => id, fun _ _ => rfl⟩

theorem insert (ahead : Ahead types plain edited) (name : Text) (code code' : Code) :
    Ahead types (plain.insert name code) (edited.insert name code') := by
  refine ⟨fun other => ?_, fun other isQuery => ?_⟩
  · rw [Table.contains_insert, Table.contains_insert, Bool.or_eq_true, Bool.or_eq_true]
    exact Or.imp_right (ahead.more other)
  · rw [Table.contains_insert, Table.contains_insert, ahead.queries other isQuery]

end Ahead

variable {types : Table Text} {plain edited : Props}

end ResolvedProps

namespace Markup

open ResolvedProps

end Markup

namespace Declarations

end Declarations

end PageCompiler
