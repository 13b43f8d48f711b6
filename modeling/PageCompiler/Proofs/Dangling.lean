/-
  When a reference is read as undefined.

  Collection gives code to every reference of a reached node that names an element or a derived node,
  and rendering finds that code again, so for these nodes undefined means dangling. The page itself is
  not among the nodes that are collected: what its own props refer to has code only if a reached node
  holds the same reference (`undefined_without_dangling`).
-/
import PageCompiler.Proofs.DeclaredBeforeUse

namespace PageCompiler

open ResolvedProps

namespace Environment

/-- The head of the reference names no node, or the first node with that name is a page. -/
def Dangling (env : Environment) (reference : Text) : Prop :=
  ∀ target, env.target? reference = some target → target.isPage = true

/-- The reference stands in a prop that the node declares. -/
def Declares (env : Environment) (node : Node) (reference : Text) : Prop :=
  ∃ name valueType value references, (env.propTypes node).get? name = some valueType ∧
    node.props.get? name = some (some value) ∧ value.references = .ok references ∧
    reference ∈ references

variable {env : Environment} {reference : Text}

theorem not_dangling_iff : ¬ env.Dangling reference ↔
    ∃ target, env.target? reference = some target ∧ target.isPage = false := by
  simp [Dangling]

end Environment

namespace PageRun

variable {document : Document} {pageId : Text} {catalog : Catalog} {editor : Bool}
  (run : PageRun document pageId catalog editor) {tables : Tables} {node : Node}
  {reference code : Text}

/-- The nodes whose props are resolved: the page, what is rendered below it and the derived nodes that
    are declared. -/
inductive ResolvedNode : Node → Prop
  | page : ResolvedNode run.env.page
  | below {node : Node} : run.env.snapshot.Below run.env.page node → ResolvedNode node
  | declared {id : Text} {node : Node} : id ∈ run.order → document.get? id = some node →
      ResolvedNode node

/-- Code that reads something starts with a name that is not reserved. -/
theorem ne_undefined_of_reads (keyed : document.Keyed)
    (reads : run.env.Reads run.collected reference code) :
    code ≠ [] ∧ code ≠ Code.undefinedText := by
  obtain ⟨head, path, segments, declared, _⟩ := run.head_of_reads keyed reads
  have own := run.own keyed
  have listed := Tables.mem_taken_of_mem_moduleNames own
    (Tables.mem_moduleNames_of_mem_bodyNames declared)
  obtain ⟨valid, unreserved⟩ := own.proper head listed
  constructor
  · rintro rfl
    cases segments
    obtain ⟨_, _, empty, _⟩ := valid
    cases empty
  · rintro rfl
    have single : Text.segments Code.undefinedText = [Code.undefinedText] := by decide
    cases single.symm.trans segments
    exact absurd unreserved (by decide)

/-- A reference is read as undefined unless a reached node holds it and it names something. -/
theorem readReference_eq_undefined_iff (keyed : document.Keyed) (moment : run.Moment tables) :
    readReference tables reference = Code.undefinedText ↔
      ¬ ∃ target, run.env.Needs reference target ∧ target.isPage = false := by
  have collected := (run.completed keyed).collectedExactly run.isStarted (run.consistent keyed)
  rw [readReference, moment.1.sameCollected.accessors, ← collected.accessors, Table.mem_keys_iff]
  cases found : run.collected.accessors.get? reference with
  | none => simp
  | some code =>
      have defined := run.ne_undefined_of_reads keyed (collected.reads reference code found)
      cases code with
      | nil => exact absurd rfl defined.1
      | cons first rest => simp [defined.2]

theorem reached_of_resolvedNode (keyed : document.Keyed) (resolved : run.ResolvedNode node) :
    node = run.env.page ∨ run.env.Reached node := by
  cases resolved with
  | page => exact .inl rfl
  | below down => exact .inr (.placed down)
  | declared member found => exact .inr (run.derived_node_reached keyed member found).1

/-- In a reached node undefined means dangling. -/
theorem undefined_iff_dangling (keyed : document.Keyed) (moment : run.Moment tables)
    (reached : run.env.Reached node) (refers : node.Refers reference) :
    readReference tables reference = Code.undefinedText ↔ run.env.Dangling reference := by
  rw [run.readReference_eq_undefined_iff keyed moment, ← not_iff_not, not_not,
    Environment.not_dangling_iff]
  constructor
  · rintro ⟨target, needs, notPage⟩
    exact ⟨target, needs.named, notPage⟩
  · rintro ⟨target, named, notPage⟩
    exact ⟨target, ⟨node, reached, refers, named⟩, notPage⟩

/-- A resolved node is the page or a reached node, so undefined means that the reference is dangling
    or that it stands in the page and in no reached node. -/
theorem undefined_iff (keyed : document.Keyed) (moment : run.Moment tables)
    (resolved : run.ResolvedNode node) (refers : node.Refers reference) :
    readReference tables reference = Code.undefinedText ↔
      run.env.Dangling reference ∨
        node = run.env.page ∧ ∀ other, run.env.Reached other → ¬ other.Refers reference := by
  by_cases shared : ∃ other, run.env.Reached other ∧ other.Refers reference
  · obtain ⟨other, reached, otherRefers⟩ := shared
    rw [run.undefined_iff_dangling keyed moment reached otherRefers]
    constructor
    · exact .inl
    · rintro (dangling | ⟨_, unshared⟩)
      · exact dangling
      · exact absurd otherRefers (unshared other reached)
  · have unshared : ∀ other, run.env.Reached other → ¬ other.Refers reference :=
      fun other reached otherRefers => shared ⟨other, reached, otherRefers⟩
    have isPage := (run.reached_of_resolvedNode keyed resolved).resolve_right
      fun reached => unshared node reached refers
    rw [run.readReference_eq_undefined_iff keyed moment]
    constructor
    · exact fun _ => .inr ⟨isPage, unshared⟩
    · rintro _ ⟨_, ⟨other, reached, otherRefers, _⟩, _⟩
      exact unshared other reached otherRefers

theorem env_page {page : Node} (found : document.get? pageId = some page) :
    run.env.page = page := by
  rw [(Environment.start_given run.start_ok).2.1]
  exact Option.some.inj (run.page_get.symm.trans found)

theorem env_snapshot : run.env.snapshot = document.snapshot := by
  rw [run.isStarted.snapshot_eq, (Environment.start_given run.start_ok).1]

theorem moment_collected : run.Moment run.collected := ⟨.refl, run.renders_all⟩

end PageRun

/-- If a page compiles, the two phases agree on what is dangling, but for the page's own props: a
    reference of a resolved node is read as undefined exactly if its head names no node or a page, or
    if it stands in the page and in none of the nodes that are collected. -/
theorem compilePage_undefined_iff {document : Document} {pageId : Text} {config : RenderConfig}
    {catalog : Catalog} {text : Text} (keyed : document.Keyed)
    (compiled : (compilePage document pageId config catalog).result = .ok text) :
    ∃ run : PageRun document pageId catalog config.editor, text = run.text config.pretty ∧
      ∀ node reference tables, run.ResolvedNode node → node.Refers reference →
        run.Moment tables →
        (readReference tables reference = Code.undefinedText ↔
          run.env.Dangling reference ∨
            node = run.env.page ∧ ∀ other, run.env.Reached other → ¬ other.Refers reference) := by
  obtain ⟨run, isText⟩ := exists_pageRun compiled
  exact ⟨run, isText, fun _ _ _ resolved refers moment =>
    run.undefined_iff keyed moment resolved refers⟩

theorem compilePage_undefined_iff_form :
    ∃ run : PageRun Form.document "page" Catalog.builtin true,
      (compilePage Form.document "page" ⟨true, false⟩ Catalog.builtin).result =
        .ok (run.text false) ∧
      readReference run.collected "total.sum" ≠ Code.undefinedText := by
  obtain ⟨text, compiled⟩ := Form.exists_compiled
  obtain ⟨run, rfl, undefined_iff⟩ := compilePage_undefined_iff (by decide) compiled
  have isPage : run.env.page = Form.page := run.env_page rfl
  have down : run.env.snapshot.Below run.env.page Form.label := by
    rw [run.env_snapshot, isPage]
    exact .child List.mem_cons_self
  have refers : Form.label.Refers "total.sum" :=
    ⟨_, _, List.mem_cons_self, rfl, List.mem_cons_self⟩
  refine ⟨run, compiled, ?_⟩
  rw [ne_eq, undefined_iff Form.label _ _ (.below down) refers run.moment_collected]
  rintro (dangling | ⟨isLabel, _⟩)
  · have named : run.env.target? "total.sum" = some Form.total := by
      rw [Environment.target?, run.env_snapshot]
      rfl
    cases dangling Form.total named
  · rw [isPage] at isLabel
    cases congrArg Node.isPage isLabel

namespace OwnProp

/-- A page whose own content is bound to a derived value. -/
def page : Node :=
  ⟨"page", "page", .ofList [("children", some (.binding "total.sum"))], none, none, none, .page []⟩

def total : Node := ⟨"total", "total", .empty, none, none, none, .derived .empty⟩

def document : Document := .ofList [("page", page), ("total", total)]

theorem exists_compiled :
    ∃ text, (compilePage document "page" ⟨false, false⟩ Catalog.builtin).result = .ok text := by
  have succeeded :
      (compilePage document "page" ⟨false, false⟩ Catalog.builtin).result.toOption.any
        (fun _ => true) = true := by
    decide +kernel
  obtain ⟨text, compiled, _⟩ := Outcome.exists_text succeeded
  exact ⟨text, compiled⟩

/-- No node is placed anywhere, so none is reached. -/
theorem not_reached {env : Environment} (isSnapshot : env.snapshot = document.snapshot) {node : Node} :
    ¬ env.Reached node := by
  intro reached
  induction reached with
  | placed down =>
      have member := down.mem_nodes
      rw [isSnapshot] at member
      have nodes : document.snapshot.nodes = [page, total] := rfl
      rw [nodes, List.mem_cons, List.mem_singleton] at member
      refine down.parentId_ne_none ?_
      rcases member with rfl | rfl <;> rfl
  | named _ _ _ _ ih => exact ih

end OwnProp

/-- The page's own props break the rule: a reference in one of them is read as undefined although its
    head names a derived node. -/
theorem undefined_without_dangling : ¬ ∀ (document : Document) (pageId : Text)
    (config : RenderConfig) (catalog : Catalog) (text : Text), document.Keyed →
      (compilePage document pageId config catalog).result = .ok text →
      ∃ run : PageRun document pageId catalog config.editor, text = run.text config.pretty ∧
        ∀ node reference tables, run.ResolvedNode node → run.env.Declares node reference →
          run.Moment tables → readReference tables reference = Code.undefinedText →
          run.env.Dangling reference := by
  intro claimed
  obtain ⟨text, compiled⟩ := OwnProp.exists_compiled
  obtain ⟨run, _, agrees⟩ := claimed _ _ _ _ _ (by decide) compiled
  have isPage : run.env.page = OwnProp.page := run.env_page rfl
  have declares : run.env.Declares run.env.page "total.sum" := by
    refine ⟨"children", "element", .binding "total.sum", _, ?_, ?_, rfl, List.mem_cons_self⟩
    · rw [isPage, Environment.propTypes, Environment.component?,
        (Environment.start_given run.start_ok).2.2.1]
      decide
    · rw [isPage]
      rfl
  have missing : readReference run.collected "total.sum" = Code.undefinedText := by
    rw [run.readReference_eq_undefined_iff (by decide) run.moment_collected]
    rintro ⟨_, ⟨_, reached, _⟩, _⟩
    exact OwnProp.not_reached run.env_snapshot reached
  have named : run.env.target? "total.sum" = some OwnProp.total := by
    rw [Environment.target?, run.env_snapshot]
    rfl
  cases agrees _ _ _ .page declares run.moment_collected missing OwnProp.total named

end PageCompiler
