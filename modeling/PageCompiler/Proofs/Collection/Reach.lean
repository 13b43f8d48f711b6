/-
  What a page needs, said without any order of visiting.

  `Reached` is the least set of nodes that holds those below the page and, with a node, every derived
  node that one of its references names. A reference names the first node, in document order, whose
  name is the reference's first segment. `Conforms` is what the references and templates of reached
  nodes have to fulfil.
-/
import PageCompiler.Compilation.Collection
import PageCompiler.Proofs.Descent
import PageCompiler.Proofs.Segments

namespace PageCompiler

namespace Reference

/-- The name at the head of a reference. -/
def name (reference : Text) : Text := (Text.segments reference).headD []

/-- The segments after the name. -/
def path (reference : Text) : List Text := (Text.segments reference).tail

end Reference

theorem Reference.dot_not_mem_path {reference piece : Text}
    (member : piece ∈ Reference.path reference) : CodePoint.char '.' ∉ piece := by
  intro inside
  have noMark := Text.isMark_eq_false_of_mem_splitWhere (List.mem_of_mem_tail member) inside
  simp at noMark

theorem Reference.dot_not_mem_prop (reference : Text) :
    CodePoint.char '.' ∉ (Reference.path reference).headD [] := by
  cases path : Reference.path reference with
  | nil => simp
  | cons prop rest => exact Reference.dot_not_mem_path (path ▸ List.mem_cons_self)

/-- The last dot of a key divides id and prop, so the key of a prop without a dot tells both. -/
theorem cellKey_inj {id prop id' prop' : Text} (plain : CodePoint.char '.' ∉ prop)
    (plain' : CodePoint.char '.' ∉ prop') (same : cellKey id prop = cellKey id' prop') :
    id = id' ∧ prop = prop' := by
  have joined : id ++ CodePoint.char '.' :: prop = id' ++ CodePoint.char '.' :: prop' := by
    simpa [cellKey, Text.ofString, Text.ofChars] using same
  rcases List.append_eq_append_iff.mp joined with ⟨middle, left, right⟩ | ⟨middle, left, right⟩
  · cases middle with
    | nil =>
        cases right
        exact ⟨by simpa using left.symm, rfl⟩
    | cons point rest =>
        cases right
        exact absurd (by simp) plain
  · cases middle with
    | nil =>
        cases right
        exact ⟨by simpa using left, rfl⟩
    | cons point rest =>
        cases right
        exact absurd (by simp) plain'

namespace Node

variable {node : Node}

/-- The reference stands in a prop of the node. -/
def Refers (node : Node) (reference : Text) : Prop :=
  ∃ value references, some value ∈ node.props.values ∧ value.references = .ok references ∧
    reference ∈ references

theorem isDerived_eq_false_of_isElement (isElement : node.isElement = true) :
    node.isDerived = false := by
  unfold Node.isElement at isElement
  unfold isDerived
  cases kind : node.kind <;> simp_all

theorem isPage_eq_false_of_isElement (isElement : node.isElement = true) : node.isPage = false := by
  unfold Node.isElement at isElement
  unfold isPage
  cases kind : node.kind <;> simp_all

theorem isPage_eq_false_of_isDerived (isDerived : node.isDerived = true) : node.isPage = false := by
  unfold Node.isDerived at isDerived
  unfold isPage
  cases kind : node.kind <;> simp_all

end Node

namespace Environment

/-- The first node named by the head of a reference. -/
def target? (env : Environment) (reference : Text) : Option Node :=
  env.snapshot.named? (Reference.name reference)

theorem idOfName?_head (env : Environment) (reference : Text) :
    env.snapshot.idOfName? ((Text.segments reference).headD []) =
      (env.target? reference).map (·.id) :=
  env.snapshot.idOfName?_eq (Reference.name reference)

/-- The nodes that a page needs: those below it, and the derived nodes that these refer to, and so
    on. -/
inductive Reached (env : Environment) : Node → Prop
  | placed {node : Node} : env.snapshot.Below env.page node → Reached env node
  | named {node target : Node} {reference : Text} :
      Reached env node → node.Refers reference → env.target? reference = some target →
      target.isDerived = true → Reached env target

/-- The reference stands in a reached node and names the target. -/
def Needs (env : Environment) (reference : Text) (target : Node) : Prop :=
  ∃ node, env.Reached node ∧ node.Refers reference ∧ env.target? reference = some target

theorem Needs.named {env : Environment} {reference : Text} {target : Node}
    (needs : env.Needs reference target) : env.target? reference = some target := by
  obtain ⟨_, _, _, named⟩ := needs
  exact named

/-- A derived node that is reached refers to another one. -/
def DependsOn (env : Environment) (id dependencyId : Text) : Prop :=
  ∃ owner reference target, env.Reached owner ∧ owner.isDerived = true ∧ owner.id = id ∧
    owner.Refers reference ∧ env.target? reference = some target ∧ target.isDerived = true ∧
    target.id = dependencyId

/-- The path starts with an argument that the element's component declares and whose changes it
    reports. -/
def Binds (env : Environment) (element : Node) (path : List Text) (argument : Argument) : Prop :=
  ∃ component prop, env.component? element = some component ∧ path.head? = some prop ∧
    component.arguments.get? prop = some (some argument) ∧ argument.changeProp.isSome = true

/-- The templates of reached nodes can be read, and their references to elements can be bound. -/
structure Conforms (env : Environment) : Prop where
  parses : ∀ node, env.Reached node → ∀ text format,
    some (.template text format) ∈ node.props.values → ∃ parts, Template.parse text = .ok parts
  binds : ∀ reference element, env.Needs reference element → element.isElement = true →
    ∃ argument, env.Binds element (Reference.path reference) argument

/-- No reference to an element has an empty segment where its prop should be. -/
def NamesProps (env : Environment) : Prop :=
  ∀ reference element, env.Needs reference element → element.isElement = true →
    (Reference.path reference).head? ≠ some []

/-- The document is keyed, and the snapshot and the page are its own. -/
structure Consistent (env : Environment) : Prop where
  keyed : env.document.Keyed
  snapshot_eq : env.snapshot = env.document.snapshot
  page_mem : env.page ∈ env.document.values

variable {env : Environment} {reference : Text} {target : Node}

namespace Consistent

variable (consistent : env.Consistent)
include consistent

theorem distinctIds : env.snapshot.DistinctIds := by
  rw [consistent.snapshot_eq]
  exact consistent.keyed.distinctIds

theorem mem_values_of_target (named : env.target? reference = some target) :
    target ∈ env.document.values := by
  have member := Snapshot.mem_of_named? named
  rwa [consistent.snapshot_eq] at member

theorem get?_target (named : env.target? reference = some target) :
    env.document.get? target.id = some target :=
  consistent.keyed.get?_id (consistent.mem_values_of_target named)

theorem node_target (named : env.target? reference = some target) :
    env.document.node target.id = .ok target := by
  simp [Document.node, consistent.get?_target named]

theorem mem_values_of_reached {node : Node} (reached : env.Reached node) :
    node ∈ env.document.values := by
  cases reached with
  | placed down =>
      have member := down.mem_nodes
      rwa [consistent.snapshot_eq] at member
  | named _ _ found _ => exact consistent.mem_values_of_target found

/-- Two targets with one id are one node. -/
theorem target_eq {other : Text} {target' : Node} (named : env.target? reference = some target)
    (named' : env.target? other = some target') (same : target.id = target'.id) :
    target = target' :=
  consistent.keyed.eq_of_id_eq (consistent.mem_values_of_target named)
    (consistent.mem_values_of_target named') same

end Consistent

/-- The check of an argument before it is bound, in the words of `Binds`. -/
theorem controlledArgument_eq_ok_iff {element : Node} {path : List Text} {argument : Argument} :
    Collection.controlledArgument env element (path.headD []) = .ok argument ↔
      path.head? ≠ some [] ∧ env.Binds element path argument := by
  constructor
  · intro accepted
    unfold Collection.controlledArgument at accepted
    split at accepted
    · cases accepted
    · next component rendered =>
        split at accepted
        · cases accepted
        · next found declared =>
            split at accepted
            · next controlled =>
                cases accepted
                split at declared
                · cases declared
                · next nonempty =>
                    cases path with
                    | nil => exact absurd rfl nonempty
                    | cons prop rest =>
                        exact ⟨by simpa using nonempty, component, prop, rendered, rfl,
                          Option.join_eq_some_iff.mp declared, controlled⟩
            · cases accepted
  · rintro ⟨nonempty, component, prop, rendered, first, declared, controlled⟩
    cases path with
    | nil => cases first
    | cons head rest =>
        cases first
        have filled : prop ≠ [] := by simpa using nonempty
        simp [Collection.controlledArgument, rendered, filled, declared, Argument.isControlled,
          controlled]

end Environment

end PageCompiler
