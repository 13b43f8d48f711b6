/-
  A page that compiles also compiles for the editor, to a module with the same state, the same derived
  values and the same data loaders.

  The phases of the two compiles are run side by side, from the tables that hold the names of every
  module on.
-/
import PageCompiler.Proofs.Editor.Instrumentation
import PageCompiler.Proofs.Noninterference
import PageCompiler.Proofs.Suggestions

namespace PageCompiler

open Compile Tables

namespace RenderScript

end RenderScript

namespace Tables

/-- The names of every module, for the page alone or for the editor. -/
def started (editor : Bool) : Tables :=
  let library := ImportTable.empty.enter Environment.reactModule ImportTable.defaultSymbol "React"
  if editor then
    { Tables.empty with
      scope := ⟨["React", runtimeAlias, "App"]⟩
      imports := library.enter Environment.runtimeModule ImportTable.wholeSymbol runtimeAlias }
  else { Tables.empty with scope := ⟨["React", "App"]⟩, imports := library }

end Tables

namespace PageRun

variable {document : Document} {pageId : Text} {catalog : Catalog}

end PageRun

namespace Tables.Beside

variable {strict : Prop} {app : Text} {plain edited : Tables} (beside : Beside strict app plain edited)
include beside

theorem cells_eq : edited.cells.values.map (fun cell => (cell.nodeId, cell.prop, cell.initial)) =
    plain.cells.values.map fun cell => (cell.nodeId, cell.prop, cell.initial) := by
  have same := congrArg (fun skeleton => skeleton.cells.values) beside.skeleton
  simpa only [Tables.skeleton, Table.values_map] using same

end Tables.Beside

end PageCompiler
