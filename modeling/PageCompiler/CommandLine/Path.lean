/-
  Paths of files. A path is kept without empty and dot components, so its text may differ from the
  one that it was read from; two dots stay where they are.
-/
import PageCompiler.Text.Quoted
import PageCompiler.Text.Split

namespace PageCompiler.CommandLine

structure Path where
  /-- The slashes in front of an absolute path: one, or exactly two. -/
  root : Text
  parts : List Text
deriving DecidableEq, Repr

namespace Path

def rootOf (text : Text) : Text :=
  let slashes := text.takeWhile (· = .char '/')
  if slashes = [] ∨ slashes = "//" then slashes else "/"

def ofText (text : Text) : Path :=
  ⟨rootOf text, (Text.splitAt '/' text).filter fun part => !part.isEmpty && part ≠ "."⟩

def text (path : Path) : Text :=
  if path.root.isEmpty && path.parts.isEmpty then "."
  else path.root ++ List.intercalate "/" path.parts

end Path

/-- Why a path cannot be opened. -/
inductive PathFault where
  | absent
  | notFolder
  | isFolder
  | nameTooLong
  | zeroCharacter
deriving DecidableEq, Repr

def PathFault.message (path : Path) : PathFault → Text
  | .absent => "[Errno 2] No such file or directory: " ++ Text.quoted path.text
  | .notFolder => "[Errno 20] Not a directory: " ++ Text.quoted path.text
  | .isFolder => "[Errno 21] Is a directory: " ++ Text.quoted path.text
  | .nameTooLong => "[Errno 36] File name too long: " ++ Text.quoted path.text
  | .zeroCharacter => "embedded null byte"

end PageCompiler.CommandLine
