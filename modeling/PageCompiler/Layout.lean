/-
  White-space layout of a module's text: blank lines go, every line is indented by the brackets
  open before it, and one empty line follows the imports. Lines that continue a template literal
  are content and stay as they are.
-/
import PageCompiler.Text.Blank
import PageCompiler.Text.Lines

namespace PageCompiler.Layout

def indentUnit : Text := "  "

def isOpener (point : CodePoint) : Bool := point ∈ ("([\x7b" : Text)

def isCloser (point : CodePoint) : Bool := point ∈ (")]\x7d" : Text)

def isQuote (point : CodePoint) : Bool := point ∈ ("\x22\x27\x60" : Text)

/-- The quote of literals that may span lines. -/
def spanningQuote : CodePoint := '\x60'

/-- What is known after a part of a line: brackets opened less those closed, the literal
    that is open, and whether its next character is escaped. -/
structure Scan where
  change : Int
  quote : Option CodePoint
  escaped : Bool
deriving DecidableEq, Repr

def Scan.step (scan : Scan) (point : CodePoint) : Scan :=
  match scan.quote with
  | some quote =>
      if scan.escaped then { scan with escaped := false }
      else if point = '\\' then { scan with escaped := true }
      else if point = quote then { scan with quote := none }
      else scan
  | none =>
      if isQuote point then { scan with quote := some point }
      else if isOpener point then { scan with change := scan.change + 1 }
      else if isCloser point then { scan with change := scan.change - 1 }
      else scan

/-- The change of depth over a line that starts inside a spanning literal or outside of literals,
    and whether a spanning literal is open at its end. -/
def scanLine (inside : Bool) (line : Text) : Int × Bool :=
  let start : Scan := ⟨0, if inside then some spanningQuote else none, false⟩
  let scan := line.foldl Scan.step start
  (scan.change, scan.quote == some spanningQuote)

/-- What one line leaves for the next. -/
structure Cursor where
  depth : Nat
  afterImport : Bool
  inside : Bool
deriving DecidableEq, Repr

def Cursor.start : Cursor := ⟨0, false, false⟩

/-- The depth after a change, which never falls below zero. -/
def movedDepth (depth : Nat) (change : Int) : Nat := ((depth : Int) + change).toNat

def indentation (depth : Nat) : Text := (List.replicate depth indentUnit).flatten

def isImport (line : Text) : Bool := ("import " : Text).isPrefixOf line

/-- The lines written for one line of input. -/
def layoutLine (cursor : Cursor) (raw : Text) : List (Text) × Cursor :=
  if cursor.inside then
    let (change, inside) := scanLine true raw
    ([raw], { cursor with depth := movedDepth cursor.depth change, inside })
  else
    let line := Text.trim raw
    if line.isEmpty then ([], cursor)
    else
      let separator := if cursor.afterImport && !isImport line then [[]] else []
      let closers := (line.takeWhile isCloser).length
      let (change, inside) := scanLine false line
      -- blanks at the end of the line belong to a literal that goes on
      let content := if inside then Text.trimLeft raw else line
      (separator ++ [indentation (cursor.depth - closers) ++ content],
        ⟨movedDepth cursor.depth change, isImport line, inside⟩)

def layoutLines (cursor : Cursor) : List (Text) → List (Text)
  | [] => []
  | raw :: rest =>
      let (lines, next) := layoutLine cursor raw
      lines ++ layoutLines next rest

def format (code : Text) : Text :=
  List.intercalate "\n" (layoutLines .start (Text.splitLines code)) ++ "\n"

end PageCompiler.Layout
