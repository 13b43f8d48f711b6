/-
  Requests to compile a page.
-/
import PageCompiler.Document.Loading
import PageCompiler.RenderConfig

namespace PageCompiler.Service

structure PageRequest where
  document : Document
  pageId : Text
  config : RenderConfig

open Checked in
def PageRequest.check : Json → Checked PageRequest :=
  model .request fun fields =>
    PageRequest.mk <$> required ⟨"dom", "dom"⟩ (Document.check .request) fields
      <*> required ⟨"page_id", "page_id"⟩ string fields
      <*> withDefault {} ⟨"config", "config"⟩ (RenderConfig.check .request) fields

end PageCompiler.Service
