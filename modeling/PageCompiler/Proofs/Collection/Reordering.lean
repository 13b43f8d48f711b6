/-
  Documents that differ only in the places of siblings and in the order of props.

  Such a document has the same nodes under the same names and the same nodes below each node, so what
  a page needs is the same: every node that is reached in one document has a counterpart that is
  reached in the other (`Reached.counterpart`), and the rest of what is said about reached nodes
  follows.
-/
import Mathlib.Data.List.Forall2
import PageCompiler.Proofs.Collection.Reach

namespace PageCompiler

open Collection

/-- The same node but for its place among its siblings and the order of its props. -/
structure Node.Reorders (node other : Node) : Prop where
  id_eq : other.id = node.id
  name_eq : other.name = node.name
  parentId_eq : other.parentId = node.parentId
  parentProp_eq : other.parentProp = node.parentProp
  kind_eq : other.kind = node.kind
  props : other.props.entries.Perm node.props.entries

/-- The same nodes in the same order, each but for its place and the order of its props. -/
def Document.Reorders (document other : Document) : Prop :=
  List.Forall₂ (fun entry entry' => entry'.1 = entry.1 ∧ entry.2.Reorders entry'.2)
    document.entries other.entries

namespace Node.Reorders

variable {node other : Node}

theorem symm (same : node.Reorders other) : other.Reorders node :=
  ⟨same.id_eq.symm, same.name_eq.symm, same.parentId_eq.symm, same.parentProp_eq.symm,
    same.kind_eq.symm, same.props.symm⟩

theorem isPage_eq (same : node.Reorders other) : other.isPage = node.isPage := by
  rw [Node.isPage, Node.isPage, same.kind_eq]

theorem isElement_eq (same : node.Reorders other) : other.isElement = node.isElement := by
  rw [Node.isElement, Node.isElement, same.kind_eq]

theorem isDerived_eq (same : node.Reorders other) : other.isDerived = node.isDerived := by
  rw [Node.isDerived, Node.isDerived, same.kind_eq]

theorem slot_eq (same : node.Reorders other) : other.slot = node.slot := by
  rw [Node.slot, Node.slot, same.parentProp_eq]

theorem mem_values (same : node.Reorders other) {prop : Option PropValue}
    (member : prop ∈ node.props.values) : prop ∈ other.props.values :=
  (same.props.map Prod.snd).mem_iff.mpr member

theorem get?_eq (same : node.Reorders other) (prop : Text) :
    other.props.get? prop = node.props.get? prop := by
  refine Option.ext fun value => ?_
  rw [← Table.mem_entries_iff, ← Table.mem_entries_iff, same.props.mem_iff]

theorem refers (same : node.Reorders other) {reference : Text} (refers : node.Refers reference) :
    other.Refers reference := by
  obtain ⟨value, references, member, read, inside⟩ := refers
  exact ⟨value, references, same.mem_values member, read, inside⟩

theorem authoredConstant?_eq (same : node.Reorders other) (prop : Text) :
    authoredConstant? other prop = authoredConstant? node prop := by
  rw [authoredConstant?, authoredConstant?, same.get?_eq prop]

end Node.Reorders

theorem Document.Reorders.symm {document other : Document} (same : document.Reorders other) :
    other.Reorders document := by
  refine List.Forall₂.flip (List.Forall₂.imp ?_ same)
  rintro entry entry' ⟨key, nodes⟩
  exact ⟨key.symm, nodes.symm⟩

theorem Document.Reorders.values {document other : Document} (same : document.Reorders other) :
    List.Forall₂ Node.Reorders document.values other.values := by
  refine List.forall₂_map_left_iff.mpr (List.forall₂_map_right_iff.mpr (List.Forall₂.imp ?_ same))
  exact fun _ _ entries => entries.2

theorem exists_of_find?_forall₂ {α β : Type} {related : α → β → Prop} {items : List α}
    {others : List β} {test : α → Bool} {test' : β → Bool} {item : α}
    (all : List.Forall₂ related items others)
    (agrees : ∀ first second, related first second → test' second = test first)
    (found : items.find? test = some item) :
    ∃ other, others.find? test' = some other ∧ related item other := by
  induction all with
  | nil => cases found
  | @cons first second _ _ pair _ ih =>
      rw [List.find?_cons] at found ⊢
      rw [agrees first second pair]
      split at found
      · next holds =>
          cases found
          exact ⟨second, rfl, pair⟩
      · exact ih found

theorem Document.Reorders.keyed {document other : Document} (same : document.Reorders other)
    (keyed : document.Keyed) : other.Keyed := by
  intro entry' member
  obtain ⟨entry, inDocument, key, nodes⟩ := exists_of_mem_forall₂ same.symm member
  rw [← key, keyed entry inDocument, nodes.id_eq]

namespace Environment

/-- The documents differ in order only; page and catalog are the same. -/
structure Reorders (env other : Environment) : Prop where
  nodes : List.Forall₂ Node.Reorders env.snapshot.nodes other.snapshot.nodes
  page : env.page.Reorders other.page
  catalog : other.catalog = env.catalog

variable {env other : Environment} {node target : Node} {reference : Text}

namespace Reorders

theorem symm (same : env.Reorders other) : other.Reorders env :=
  ⟨List.Forall₂.flip (List.Forall₂.imp (fun _ _ pair => pair.symm) same.nodes), same.page.symm,
    same.catalog.symm⟩

theorem exists_target (same : env.Reorders other) (named : env.target? reference = some target) :
    ∃ target', other.target? reference = some target' ∧ target.Reorders target' := by
  refine exists_of_find?_forall₂ same.nodes ?_ named
  intro first second pair
  rw [pair.name_eq]

theorem child {parent parent' : Node} (same : env.Reorders other)
    (parents : parent.Reorders parent') (member : node ∈ env.snapshot.childList parent) :
    ∃ node' ∈ other.snapshot.childList parent', node.Reorders node' := by
  obtain ⟨inNodes, placed, inSlot⟩ := Snapshot.mem_childList.mp member
  obtain ⟨node', inNodes', nodes⟩ := exists_of_mem_forall₂ same.nodes inNodes
  refine ⟨node', Snapshot.mem_childList.mpr ⟨inNodes', ?_, ?_⟩, nodes⟩
  · rw [nodes.parentId_eq, placed, parents.id_eq]
  · rw [parents.isPage_eq, nodes.slot_eq]
    exact inSlot

theorem below (same : env.Reorders other) (down : env.snapshot.Below env.page node) :
    ∃ node', other.snapshot.Below other.page node' ∧ node.Reorders node' := by
  induction down with
  | child member =>
      obtain ⟨node', member', nodes⟩ := same.child same.page member
      exact ⟨node', .child member', nodes⟩
  | deeper _ member ih =>
      obtain ⟨middle', down', parents⟩ := ih
      obtain ⟨node', member', nodes⟩ := same.child parents member
      exact ⟨node', .deeper down' member', nodes⟩

theorem component?_eq {node' : Node} (same : env.Reorders other) (nodes : node.Reorders node') :
    other.component? node' = env.component? node := by
  rw [component?, component?, nodes.kind_eq, same.catalog]

end Reorders

/-- A reached node has a counterpart that is reached. -/
theorem Reached.counterpart (same : env.Reorders other) (reached : env.Reached node) :
    ∃ node', other.Reached node' ∧ node.Reorders node' := by
  induction reached with
  | placed down =>
      obtain ⟨node', down', nodes⟩ := same.below down
      exact ⟨node', .placed down', nodes⟩
  | named _ refers named isDerived ih =>
      obtain ⟨owner', reached', owners⟩ := ih
      obtain ⟨target', named', targets⟩ := same.exists_target named
      refine ⟨target', .named reached' (owners.refers refers) named' ?_, targets⟩
      rw [targets.isDerived_eq, isDerived]

theorem Needs.counterpart (same : env.Reorders other) (needs : env.Needs reference target) :
    ∃ target', other.Needs reference target' ∧ target.Reorders target' := by
  obtain ⟨node, reached, refers, named⟩ := needs
  obtain ⟨node', reached', nodes⟩ := reached.counterpart same
  obtain ⟨target', named', targets⟩ := same.exists_target named
  exact ⟨target', ⟨node', reached', nodes.refers refers, named'⟩, targets⟩

theorem DependsOn.counterpart {id dependencyId : Text} (same : env.Reorders other)
    (depends : env.DependsOn id dependencyId) : other.DependsOn id dependencyId := by
  obtain ⟨owner, reference, target, reached, ownerDerived, rfl, refers, named, isDerived, rfl⟩ :=
    depends
  obtain ⟨owner', reached', owners⟩ := reached.counterpart same
  obtain ⟨target', named', targets⟩ := same.exists_target named
  refine ⟨owner', reference, target', reached', ?_, owners.id_eq, owners.refers refers, named', ?_,
    targets.id_eq⟩
  · rw [owners.isDerived_eq, ownerDerived]
  · rw [targets.isDerived_eq, isDerived]

theorem Conforms.counterpart (same : env.Reorders other) (conforms : env.Conforms) :
    other.Conforms := by
  refine ⟨?_, ?_⟩
  · intro node' reached' text format member'
    obtain ⟨node, reached, nodes⟩ := reached'.counterpart same.symm
    exact conforms.parses node reached text format (nodes.mem_values member')
  · intro reference element' needs' isElement'
    obtain ⟨element, needs, elements⟩ := needs'.counterpart same.symm
    obtain ⟨argument, component, prop, rendered, first, declared, controlled⟩ :=
      conforms.binds reference element needs (by rw [elements.isElement_eq, isElement'])
    refine ⟨argument, component, prop, ?_, first, declared, controlled⟩
    rw [same.component?_eq elements.symm, rendered]

theorem NamesProps.counterpart (same : env.Reorders other) (names : env.NamesProps) :
    other.NamesProps := by
  intro reference element' needs' isElement'
  obtain ⟨element, needs, elements⟩ := needs'.counterpart same.symm
  exact names reference element needs (by rw [elements.isElement_eq, isElement'])

theorem Reorders.noLoop (consistent : env.Consistent) (same : env.Reorders other)
    (noLoop : ¬ env.snapshot.Below env.page env.page) :
    ¬ other.snapshot.Below other.page other.page := by
  intro loop
  obtain ⟨node, down, nodes⟩ := same.symm.below loop
  have pageMember : env.page ∈ env.snapshot.nodes := by
    rw [consistent.snapshot_eq]
    exact consistent.page_mem
  have isPage : node = env.page := consistent.distinctIds node down.mem_nodes env.page pageMember
    (nodes.id_eq.trans same.page.id_eq)
  exact noLoop (isPage ▸ down)

/-- A page of a reordered document. -/
theorem Reorders.of_documents (consistent : env.Consistent) (consistent' : other.Consistent)
    (same : env.document.Reorders other.document) (samePage : other.page.id = env.page.id)
    (catalog : other.catalog = env.catalog) : env.Reorders other := by
  have nodes := same.values
  obtain ⟨page', member', pages⟩ := exists_of_mem_forall₂ nodes consistent.page_mem
  have isPage : page' = other.page :=
    consistent'.keyed.eq_of_id_eq member' consistent'.page_mem (pages.id_eq.trans samePage.symm)
  subst isPage
  refine ⟨?_, pages, catalog⟩
  rw [consistent.snapshot_eq, consistent'.snapshot_eq]
  exact nodes

end Environment

end PageCompiler
