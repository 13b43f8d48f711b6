/-
  The code of references is neutral.

  A reference that matches the grammar consists of word characters, dollar signs and dots. Those of
  templates always do; those of direct bindings are not checked, so this is asked of the document. The
  code of such a reference is a name of the module with the rest of the path behind it, and holds no
  quote, bracket or backslash.
-/
import PageCompiler.Proofs.Brackets.Rendered
import PageCompiler.Proofs.MemberExpressions

namespace PageCompiler

open Layout

namespace Template

variable {text reference : Text} {position : Nat} {parts : List TemplatePart}

theorem isReference_of_readReference {content : Text}
    (read : readReference content = .ok reference) : isReference reference = true := by
  unfold readReference at read
  dsimp only at read
  split_ifs at read with _ _ matching
  cases read
  exact matching

theorem isReference_of_parseFrom (parsed : parseFrom position text = .ok parts)
    (member : .reference reference ∈ parts) : isReference reference = true := by
  -- The text between references gives text parts only.
  have plain : ∀ content, TemplatePart.reference reference ∉ textParts content := by
    intro content inside
    unfold textParts at inside
    split_ifs at inside <;> simp at inside
  fun_induction parseFrom position text generalizing parts with
  | case1 =>
      cases parsed
      exact absurd member (plain _)
  | case2 => cases parsed
  | case3 => cases parsed
  | case4 => cases parsed
  | case5 =>
      rename_i read _ ran ih
      cases parsed
      rcases List.mem_append.mp member with front | later
      · exact absurd front (plain _)
      · rcases List.mem_cons.mp later with same | below
        · cases same
          exact isReference_of_readReference read
        · exact ih ran below

/-- The references of a template match the grammar. -/
theorem isReference_of_parse (parsed : parse text = .ok parts) (member : reference ∈ references parts) :
    isReference reference = true := by
  unfold parse at parsed
  split at parsed
  · next ran =>
      cases parsed
      obtain ⟨part, inParts, isReference⟩ := List.mem_filterMap.mp member
      cases part with
      | text content => cases isReference
      | reference path =>
          cases isReference
          exact isReference_of_parseFrom ran inParts
  · cases parsed

theorem neutral_of_isSegmentPart {point : CodePoint} (part : isSegmentPart point = true) :
    isDelimiter point = false ∧ point ≠ '\\' :=
  neutral_of_property (by decide) part

end Template

/-- What follows the name in a reference that matches the grammar. -/
theorem Reference.neutral_of_mem_path {reference piece : Text}
    (matching : Template.isReference reference = true) (member : piece ∈ Reference.path reference) :
    Neutral piece := by
  unfold Template.isReference at matching
  split at matching
  · next first rest path pieces =>
      have isPath : Reference.path reference = path := by
        rw [Reference.path, Text.segments, pieces]
        rfl
      rw [isPath] at member
      simp only [Bool.and_eq_true, List.all_eq_true] at matching
      exact fun point inside =>
        Template.neutral_of_isSegmentPart ((matching.2 piece member).2 point inside)
  · cases matching

theorem Collection.neutral_accessor {identifier : Text} {path : List Text}
    (head : Neutral identifier) (pieces : ∀ piece ∈ path, Neutral piece) :
    Neutral (accessor identifier path) := by
  rw [accessor_eq]
  refine head.append fun point member => ?_
  obtain ⟨piece, inPath, inside⟩ := List.mem_flatMap.mp member
  have dotted : Neutral (MemberStep.text (.field piece)) :=
    List.forall_mem_cons.mpr ⟨by decide, pieces piece inPath⟩
  exact dotted point inside

namespace Node

/-- The direct bindings of the node match the grammar of references. -/
def BindsReferences (node : Node) : Prop :=
  ∀ reference, some (.binding reference) ∈ node.props.values → Template.isReference reference = true

theorem BindsReferences.isReference {node : Node} {reference : Text} (binds : node.BindsReferences)
    (refers : node.Refers reference) : Template.isReference reference = true := by
  obtain ⟨value, references, member, read, inside⟩ := refers
  unfold PropValue.references at read
  split at read
  · cases read
    rw [List.mem_singleton.mp inside]
    exact binds _ member
  · split at read
    · next parsed =>
        cases read
        exact Template.isReference_of_parse parsed inside
    · cases read
  · cases read
    cases inside

end Node

namespace PageRun

variable {document : Document} {pageId : Text} {catalog : Catalog} {editor : Bool}
  (run : PageRun document pageId catalog editor)

/-- After collection the tables are neutral, so they are while the page is rendered. -/
theorem neutral_collected (keyed : document.Keyed)
    (binds : ∀ node ∈ document.values, node.BindsReferences) :
    run.collected.Neutral (some run.env.appName) := by
  have completed := run.completed keyed
  have own := completed.collects.takesNames.own run.isStarted.own
  refine ⟨own, fun {reference code} found => ?_⟩
  obtain ⟨⟨_, owner, reached, refers, _⟩, reads⟩ :=
    (completed.collects.justified run.isStarted.justified).accessors found
  have member := (run.consistent keyed).mem_values_of_reached reached
  rw [(Environment.start_given run.start_ok).1] at member
  have matching := (binds owner member).isReference refers
  obtain ⟨target, slot, head, _, isHead, rfl⟩ := @reads.exists_head _ _ _ _ (some run.env.appName)
  refine Collection.neutral_accessor (own.proper head (own.taken isHead)).1.neutral ?_
  intro piece inRest
  unfold Environment.restOfPath at inRest
  split at inRest
  · exact Reference.neutral_of_mem_path matching (List.mem_of_mem_tail inRest)
  · exact Reference.neutral_of_mem_path matching inRest

end PageRun

end PageCompiler
