/-
  The module of a page. Everything that can ask for an import comes before the import table is
  frozen, and the header is written last.
-/
import PageCompiler.Compilation.Declarations
import PageCompiler.Layout
import PageCompiler.RenderConfig

namespace PageCompiler

/-- The text of a module from its parts. -/
def moduleText (header appName : Text) (body : List Text) (root : Text) : Text :=
  let indent := Layout.indentUnit
  let lines := [header, "", "export default function " ++ appName ++ "() \x7b"]
    ++ body.map (indent ++ ·)
    ++ [indent ++ "return (", indent ++ indent ++ root, indent ++ ");", "\x7d"]
  List.intercalate "\n" lines ++ "\n"

namespace Compile

def freezeImports : Compile Unit :=
  modify fun tables => { tables with imports := tables.imports.freeze }

def importHeader : Compile Text := do
  match (← get).imports.render with
  | .ok header => return header
  | .error misuse => throw (.imports misuse)

/-- Compiles the page: collects, renders, declares, and only then writes the imports. -/
def pageModule (env : Environment) : Compile Text := do
  Collection.collectPage env
  let root ← Markup.renderRoot env
  let state := Declarations.stateLines env (← get)
  let derived ← Declarations.derivedLines env
  let loaders ← Declarations.loaderLines
  freezeImports
  let header ← importHeader
  return moduleText header env.appName (state ++ loaders ++ derived) root

end Compile

/-- What a compile gives: the module or why there is none, and the warnings on the way. -/
structure Outcome where
  result : Except Failure Text
  warnings : List Warning

/-- Compiles one page of a document to the text of a module. -/
def compilePage (document : Document) (pageId : Text) (config : RenderConfig)
    (catalog : Catalog) : Outcome :=
  let started := do
    let node ← document.node pageId
    let page ← node.requirePage
    Environment.start document catalog config.editor page
  match started with
  | .error failure => ⟨.error failure, []⟩
  | .ok (env, tables) =>
      match (Compile.pageModule env).run tables with
      | .ok code tables =>
          ⟨.ok (if config.pretty then Layout.format code else code), tables.warnings⟩
      | .error failure tables => ⟨.error failure, tables.warnings⟩

end PageCompiler
