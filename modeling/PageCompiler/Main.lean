/-
  The program: reads its arguments, one file, and prints or writes what a command gives.
-/
import PageCompiler.CommandLine.Run

open PageCompiler.CommandLine

namespace PageCompiler.Main

def usage : String :=
  "usage: pagecompiler render DOCUMENT --page PAGE [--editor] [--pretty] [--output FILE]\n"
    ++ "       pagecompiler components\n"

def readContent (path : Path) : IO (Option Text) := do
  try
    return some (.ofString (← IO.FS.readFile path.text.shown))
  catch _ => return none

def finish (report : Report) : IO UInt32 := do
  for line in report.log do
    IO.eprintln line.shown
  match report.written with
  | some (path, content) => IO.FS.writeFile path.text.shown content.shown
  | none => pure ()
  IO.print report.printed.shown
  return report.exitCode.toUInt32

def crashMessage : Crash → String
  | .compoundTag tag => tag.message
  | .pageUnnamed => "a page needs an id"
  | .endless => "a node is placed below itself"
  | .unopened path fault => (fault.message path).shown

end PageCompiler.Main

open PageCompiler.Main in
def main (arguments : List String) : IO UInt32 := do
  match parse arguments with
  | .error .helpWanted =>
      IO.print usage
      return Stop.helpWanted.exitCode.toUInt32
  | .error .misuse =>
      IO.eprint usage
      return Stop.misuse.exitCode.toUInt32
  | .ok .none =>
      IO.print usage
      return 0
  | .ok .components => finish runComponents
  | .ok (.render task) =>
      match runRender task (← readContent (.ofText task.document)) with
      | .ok report => finish report
      | .error crash =>
          IO.eprintln (crashMessage crash)
          return 1
