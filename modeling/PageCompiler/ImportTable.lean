/-
  The imports of the generated module.

  An import is known by its source module and the symbol it takes from there: `default`, `*` for
  the whole module, or an exported name. Each gets one local alias. The table grows until it is
  frozen, and only a frozen table is rendered, so no import can be missing from the header.
-/
import PageCompiler.Json.StringLiteral
import PageCompiler.Scope
import PageCompiler.Table
import PageCompiler.Text.Quoted

namespace PageCompiler

structure ImportTable where
  /-- Aliases by source module and symbol. -/
  modules : Table (Table Text)
  frozen : Bool
deriving DecidableEq

/-- Uses of a table out of order. -/
inductive ImportMisuse where
  | addAfterFreeze (source symbol : Text)
  | renderBeforeFreeze
deriving DecidableEq, Repr

def ImportMisuse.message : ImportMisuse → Text
  | .addAfterFreeze source symbol =>
      "Can't add import of " ++ Text.quoted symbol ++ " from " ++ Text.quoted source
        ++ " after the imports were sealed"
  | .renderBeforeFreeze => "Imports must be sealed before they are rendered"

namespace ImportTable

/-- The symbol of a module's default export. -/
def defaultSymbol : Text := "default"

/-- The symbol that stands for a whole module. -/
def wholeSymbol : Text := "*"

def empty : ImportTable := ⟨.empty, false⟩

/-- The alias of an import that is already in the table. -/
def localName? (table : ImportTable) (source symbol : Text) : Option Text :=
  (table.modules.get? source).bind (·.get? symbol)

/-- Enters an import and gives its alias. The first alias of an import is kept; a new one follows
    the suggestion, or the symbol if there is none. -/
def add (table : ImportTable) (scope : Scope) (source symbol : Text)
    (suggestion : Option Text) : Except ImportMisuse (Text × ImportTable × Scope) :=
  if table.frozen then .error (.addAfterFreeze source symbol)
  else
    match table.localName? source symbol with
    | some name => .ok (name, table, scope)
    | none =>
        let wanted := match suggestion with
          | none | some [] => symbol
          | some text => text
        let (name, scope) := scope.allocate wanted
        let symbols := ((table.modules.get? source).getD .empty).insert symbol name
        .ok (name, { table with modules := table.modules.insert source symbols }, scope)

def freeze (table : ImportTable) : ImportTable := { table with frozen := true }

/-- One symbol inside the braces of a declaration. -/
def namedText (entry : Text × Text) : Text :=
  if entry.1 = entry.2 then entry.1 else entry.1 ++ " as " ++ entry.2

/-- Symbols that are imported by name. -/
def namedSymbols (symbols : Table Text) : List (Text × Text) :=
  symbols.entries.filter fun entry => entry.1 ≠ defaultSymbol && entry.1 ≠ wholeSymbol

/-- A declaration that binds the given clauses. -/
def declaration (clauses : List Text) (source : Text) : Text :=
  "import " ++ List.intercalate ", " clauses ++ " from " ++ Json.stringLiteral source ++ ";"

/-- The declarations of one source module. A whole-module import cannot share a declaration with
    named symbols, so these two together take two lines. -/
def moduleLines (source : Text) (symbols : Table Text) : List Text :=
  let defaultClause := (symbols.get? defaultSymbol).toList
  let wholeClause := (symbols.get? wholeSymbol).toList.map fun (name : Text) => "* as " ++ name
  let named := namedSymbols symbols
  let namedClause :=
    if named.isEmpty then []
    else ["\x7b " ++ List.intercalate ", " (named.map namedText) ++ " \x7d"]
  if wholeClause.isEmpty then [declaration (defaultClause ++ namedClause) source]
  else
    declaration (defaultClause ++ wholeClause) source ::
      (if namedClause.isEmpty then [] else [declaration namedClause source])

/-- The import header, source modules in the order of their first import. -/
def render (table : ImportTable) : Except ImportMisuse Text :=
  if table.frozen then
    .ok (List.intercalate "\n"
      (table.modules.entries.flatMap fun entry => moduleLines entry.1 entry.2))
  else .error .renderBeforeFreeze

end ImportTable

end PageCompiler
