/-
  A folder of files, in which the program runs. There are no folders in it, and nothing is known of
  those above it but that they exist.
-/
import PageCompiler.CommandLine.Path
import PageCompiler.Table

namespace PageCompiler.CommandLine

/-- The files of a folder with their contents. -/
abbrev Folder := Table Text

/-- Where a path leads. -/
inductive Place where
  /-- The folder itself or one above it. -/
  | folder
  | file (name : Text)
  /-- A file in a folder above. -/
  | outside
deriving DecidableEq, Repr

namespace Folder

/-- The most bytes of a name and of a whole path. -/
def nameLimit : Nat := 255
def pathLimit : Nat := 4095

/-- Follows the parts of a path, from the folder or from one above it. -/
def follow (folder : Folder) (isAbove : Bool) : List Text → Except PathFault Place
  | [] => .ok .folder
  | name :: rest =>
      if name = ".." then follow folder true rest
      else if nameLimit < name.shown.utf8ByteSize then .error .nameTooLong
      else if rest.isEmpty then .ok (if isAbove then .outside else .file name)
      else if !isAbove && folder.contains name then .error .notFolder
      else .error .absent

def place (folder : Folder) (path : Path) : Except PathFault Place :=
  if path.text.contains '\x00' then .error .zeroCharacter
  else if pathLimit < path.text.shown.utf8ByteSize then .error .nameTooLong
  else follow folder (!path.root.isEmpty) path.parts

/-- The content of a file, if there is one. Only a name that is too long and a folder are faults. -/
def read (folder : Folder) (path : Path) : Except PathFault (Option Text) :=
  match folder.place path with
  | .ok (.file name) => .ok (folder.get? name)
  | .ok .folder => .error .isFolder
  | .error .nameTooLong => .error .nameTooLong
  | .ok .outside | .error _ => .ok none

def write (folder : Folder) (path : Path) (content : Text) : Except PathFault Folder :=
  match folder.place path with
  | .ok (.file name) => .ok (folder.insert name content)
  | .ok .folder => .error .isFolder
  | .ok .outside => .ok folder
  | .error fault => .error fault

end Folder

end PageCompiler.CommandLine
