/-
  What the commands do in a folder of files.
-/
import PageCompiler.CommandLine.Arguments
import PageCompiler.CommandLine.Folder
import PageCompiler.Compilation.PageModule
import PageCompiler.Document.Loading

namespace PageCompiler.CommandLine

/-- What a run of the program leaves: its exit code, what it prints and logs, and the file that it
    writes. -/
structure Report where
  exitCode : Nat
  printed : Text
  log : List Text := []
  written : Option (Path × Text) := none

/-- Faults that end the program without a report. -/
inductive Crash where
  | compoundTag (tag : CompoundTag)
  | pageUnnamed
  | endless
  | unopened (path : Path) (fault : PathFault)
deriving DecidableEq, Repr

def issueCount (issues : List Issue) : Text := Text.ofNat issues.length ++ " issues"

def renderReport (page : Text) (output : Option Text) (outcome : Outcome) :
    Except Crash Report :=
  let log := outcome.warnings.map Warning.message
  match outcome.result with
  | .error .endless => .error .endless
  | .error failure =>
      .ok ⟨1, "", log ++ ["Failed to render page " ++ page ++ ": " ++ failure.message], none⟩
  | .ok code =>
      match output with
      | none | some [] => .ok ⟨0, code, log, none⟩
      | some path =>
          .ok ⟨0, "✅ Wrote page " ++ page ++ " to " ++ path ++ "\n", log,
            some (.ofText path, code)⟩

/-- Renders a page of the document whose file has the given content, if there is one. -/
def runRender (task : RenderTask) (content : Option Text) : Except Crash Report :=
  let path := (Path.ofText task.document).text
  match content with
  | none => .ok ⟨1, "", ["Document not found: " ++ path], none⟩
  | some text =>
      match Document.ofText text with
      | .aborted tag => .error (.compoundTag tag)
      | .rejected issues =>
          .ok ⟨1, "", ["Invalid document " ++ path ++ ": " ++ issueCount issues], none⟩
      | .accepted document =>
          match task.page with
          | none => .error .pageUnnamed
          | some page =>
              renderReport page (task.output.map Text.ofString)
                (compilePage document page ⟨task.editor, task.pretty⟩ Catalog.builtin)

/-- Renders a page in a folder, and gives the folder with the file that was written. -/
def renderIn (folder : Folder) (task : RenderTask) : Except Crash (Report × Folder) :=
  let source := Path.ofText task.document
  match folder.read source with
  | .error fault => .error (.unopened source fault)
  | .ok content =>
      match runRender task content with
      | .error crash => .error crash
      | .ok report =>
          match report.written with
          | none => .ok (report, folder)
          | some (target, code) =>
              match folder.write target code with
              | .error fault => .error (.unopened target fault)
              | .ok folder => .ok (report, folder)

/-- A text followed by blanks up to a width. -/
def padded (width : Nat) (text : Text) : Text :=
  text ++ List.replicate (width - text.length) (.char ' ')

def tableRow (name arguments : Text) : Text := padded 15 name ++ " " ++ padded 50 arguments

/-- The list of the components at hand and their arguments. -/
def componentTable (catalog : Catalog) : Text :=
  let rows := catalog.entries.map fun entry =>
    let arguments := entry.2.arguments.entries.filterMap fun argument =>
      argument.2.map fun _ => argument.1
    tableRow entry.1 (List.intercalate ", " arguments)
  let rule : Text := List.replicate 65 (.char '-')
  "\n" ++ List.intercalate "\n" (tableRow "Component" "Arguments" :: rule :: rows) ++ "\n"

def runComponents : Report := ⟨0, componentTable Catalog.builtin, [], none⟩

end PageCompiler.CommandLine
