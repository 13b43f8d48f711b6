/-
  What loading a document can end in.

  A document that is accepted is keyed and has the nodes and props of its source, where a prop whose tag
  is not known is loaded as an unrecognized one. A document that is rejected is reported with at least
  one issue. A third end is possible: to look a prop's tag up, it has to be compared, and an array or an
  object cannot be (`compoundTags`). Only props of nodes whose kind is known are looked at, so such a tag
  elsewhere does no harm. `compound_tag_ends_loading` is a document that ends so.
-/
import PageCompiler.Proofs.Checks
import PageCompiler.Proofs.KeyedDocument

namespace PageCompiler

open Checked

namespace PropValue

/-- The tag of a prop if it is an array or an object. -/
def compoundTag? (source : Json) : Option CompoundTag :=
  match source.field? "type" with
  | some (.arr _) => some .array
  | some (.obj _) => some .object
  | _ => none

/-- The tag is one of those that have a shape of their own. -/
def HasKnownTag (source : Json) : Prop :=
  ∃ shape : Shape, shape ≠ .unrecognized ∧ source.field? "type" = some (.str shape.tag)

/-- A prop that is no null keeps its tag. If the tag is not known, it keeps its value as well. -/
structure Loads (source : Json) (stored : PropValue) : Prop where
  tag : source.field? "type" = some (.str stored.tag)
  unrecognized : ¬ HasKnownTag source →
    stored = .unrecognized stored.tag ((source.field? "value").getD .null).distinct

theorem Shape.tag_ofTag {tag : Text} (known : Shape.ofTag tag ≠ .unrecognized) :
    (Shape.ofTag tag).tag = tag := by
  unfold Shape.ofTag at known ⊢
  split_ifs at known ⊢ with const binding template
  · exact const.symm
  · exact binding.symm
  · exact template.symm
  · exact absurd rfl known

theorem ends_shapeOfTag (source : Json) :
    (shapeOfTag (source.field? "type")).Ends (compoundTag? source) fun shape =>
      shape ≠ .unrecognized → source.field? "type" = some (.str shape.tag) := by
  unfold compoundTag?
  cases source.field? "type" with
  | none => exact .accept fun known => absurd rfl known
  | some tag =>
      cases tag with
      | str tag => exact .accept fun known => by rw [Shape.tag_ofTag known]
      | arr _ => rfl
      | obj _ => rfl
      | _ => exact .accept fun known => absurd rfl known

theorem ends_checkNames (fields : List (Text × Json)) :
    (checkNames fields).Ends none fun _ => True := by
  unfold checkNames
  split
  · exact .reject _ _
  · exact .accept trivial

/-- The fields of a known shape give a prop of that shape, all others an unrecognized one. -/
theorem ends_checkFields (shape : Shape) (fields : List (Text × Json)) :
    (checkFields shape fields).Ends none fun stored =>
      if shape = .unrecognized then
        ∃ tag, last? "type" fields = some (.str tag) ∧
          stored = .unrecognized tag ((last? "value" fields).getD .null).distinct
      else stored.tag = shape.tag := by
  have text : (required .value string fields).Ends none fun _ => True := .requiredText _ _
  cases shape with
  | const =>
      have value : (withDefault .null .value any fields).Ends none fun _ => True :=
        .withDefault (fun _ => trivial) fun _ value _ => (Ends.any value).imp fun _ _ => trivial
      exact .fmap (value.imp fun _ _ => rfl)
  | binding => exact .fmap (text.imp fun _ _ => rfl)
  | template => exact .seq_plain (.fmap (text.imp fun _ _ _ => rfl)) (.optionalText _ _)
  | unrecognized =>
      have tag : (required .type string fields).Ends none fun tag =>
          last? "type" fields = some (.str tag) := by
        refine .required fun _ value found => (Ends.string value).imp fun tag isTag => ?_
        rw [findField_single rfl] at found
        obtain ⟨_, isValue, same⟩ := Option.map_eq_some_iff.mp found
        cases same
        rw [← isTag]
        exact isValue
      have value : (withDefault .null .value any fields).Ends none fun value =>
          value = ((last? "value" fields).getD .null).distinct := by
        refine .withDefault (fun absent => ?_) fun _ value found =>
          (Ends.any value).imp fun stored isStored => ?_
        · rw [findField_single rfl, Option.map_eq_none_iff] at absent
          exact congrArg (fun found : Option Json => (found.getD .null).distinct) absent.symm
        · rw [findField_single rfl] at found
          obtain ⟨_, isValue, same⟩ := Option.map_eq_some_iff.mp found
          cases same
          rw [isStored]
          exact congrArg (fun found : Option Json => (found.getD .null).distinct) isValue.symm
      refine .seq_first (.seq_first (.fmap ((ends_checkNames fields).imp fun _ _ => ?_)) tag) value
      rintro tag isTag _ rfl
      exact ⟨tag, isTag, rfl⟩

theorem ends_check (origin : Origin) (source : Json) :
    (check origin source).Ends (compoundTag? source) (Loads source) := by
  refine (ends_shapeOfTag source).andThen fun shape tagged => .within _ (.model ?_ fun _ => rfl)
  rintro fields rfl
  refine (ends_checkFields shape fields).imp fun stored made => ?_
  split at made
  · obtain ⟨tag, isTag, rfl⟩ := made
    exact ⟨isTag, fun _ => rfl⟩
  · next known =>
      have isTag := tagged known
      exact ⟨made ▸ isTag, fun unknown => absurd ⟨shape, known, isTag⟩ unknown⟩

end PropValue

namespace Node

/-- The tag is that of a kind of nodes. -/
def hasKind (source : Json) : Bool :=
  ["page", "element", "derivedState"].any fun name : String =>
    (source.field? "type").bind Json.string? = some (Text.ofString name)

/-- The props of a node that are looked at. -/
def propsOf (source : Json) : List (Text × Json) :=
  if hasKind source then membersAt .props source else []

/-- A null stands for no prop. -/
def LoadsProp (source : Json) (stored : Option PropValue) : Prop :=
  source = .null ∧ stored = none ∨ ∃ value, stored = some value ∧ PropValue.Loads source value

theorem ends_checkFields {origin : Origin} {kind : List (Text × Json) → Checked NodeKind}
    {fields : List (Text × Json)} (kindEnds : (kind fields).Ends none fun _ => True) :
    (checkFields origin kind fields).Ends
      ((membersAt .props (.obj fields)).findSome? fun prop => PropValue.compoundTag? prop.2)
      fun node => Fills LoadsProp (membersAt .props (.obj fields)) node.props := by
  have eachProp : ∀ source, (nullable (PropValue.check origin) source).Ends
      (PropValue.compoundTag? source) (LoadsProp source) := fun source =>
    .nullable (by rintro rfl; rfl) (PropValue.ends_check origin source)
  refine .seq_plain (.seq_plain (.seq_plain (.seq_plain
    (.seq_first (.seq_plain (.fmap ?_) (.requiredText .name fields)) (.tableAt eachProp .props fields))
    (.optionalText .parentId fields)) (.optionalText .parentProp fields))
    (.optionalText .parentIndex fields)) kindEnds
  exact (Ends.requiredText .id fields).imp fun _ _ _ _ filled _ _ _ _ => filled

theorem ends_kind {origin : Origin} {name : String} {kind : List (Text × Json) → Checked NodeKind}
    (member : (name, kind) ∈ kindChecks origin) (fields : List (Text × Json)) :
    (kind fields).Ends none fun _ => True := by
  simp only [kindChecks, List.mem_cons, Prod.mk.injEq, List.not_mem_nil, or_false] at member
  rcases member with ⟨-, rfl⟩ | ⟨-, rfl⟩ | ⟨-, rfl⟩
  · have title : (withDefault [] .title string fields).Ends none fun _ => True :=
      .withDefault (fun _ => trivial) fun _ value _ => (Ends.string value).imp fun _ _ => trivial
    exact .fmap title
  · exact .fmap (Ends.requiredText .component fields)
  · have eachType : ∀ source, (checkType origin source).Ends none fun _ => True := fun source =>
      .model (fun fields _ => .requiredText .type fields) fun _ => rfl
    have types := Ends.tableAt eachType .argTypes fields
    rw [List.findSome?_eq_none_iff.mpr fun _ _ => rfl] at types
    exact .fmap (types.imp fun _ _ => trivial)

/-- The kinds that are looked for are those of `hasKind`. -/
theorem hasKind_eq {origin : Origin} {fields : List (Text × Json)} {tag : Json}
    (tagged : last? "type" fields = some tag) :
    hasKind (.obj fields) =
      ((kindChecks origin).find? fun entry => tag.string? = some (Text.ofString entry.1)).isSome := by
  have field : (Json.obj fields).field? "type" = some tag := tagged
  have names : ["page", "element", "derivedState"] = (kindChecks origin).map Prod.fst := rfl
  rw [hasKind, field, names, List.any_map, List.isSome_find?]
  rfl

theorem ends_check (origin : Origin) (source : Json) :
    (check origin source).Ends
      ((propsOf source).findSome? fun prop => PropValue.compoundTag? prop.2)
      fun node => Fills LoadsProp (propsOf source) node.props := by
  cases source with
  | obj fields =>
      unfold check propsOf
      dsimp only
      split
      · next untagged =>
          have field : (Json.obj fields).field? "type" = none := untagged
          have noKind : hasKind (.obj fields) = false := by
            simp [hasKind, field]
          rw [noKind]
          exact .reject _ _
      · next tag tagged =>
          rw [@hasKind_eq origin _ _ tagged]
          split
          · next name kind found =>
              rw [found]
              exact .within _ (ends_checkFields (ends_kind (List.mem_of_find?_eq_some found) fields))
          · next unknown =>
              rw [unknown]
              exact .reject _ _
  | _ => exact .reject _ _

end Node

namespace Document

/-- The nodes of a document that are looked at. -/
def nodesOf (source : Json) : List (Text × Json) := membersAt .nodes source

/-- The tags of props that are arrays or objects, in the order of the document. -/
def compoundTags (source : Json) : List CompoundTag :=
  (nodesOf source).flatMap fun node =>
    (Node.propsOf node.2).filterMap fun prop => PropValue.compoundTag? prop.2

/-- The node has the props of its source. -/
def LoadsNode (source : Json) (node : Node) : Prop :=
  Fills Node.LoadsProp (Node.propsOf source) node.props

theorem ends_checkKeys (source : Json) (document : Document) :
    (checkKeys source document).Ends none fun checked => checked = document ∧ checked.Keyed := by
  unfold checkKeys
  split
  · exact .reject _ _
  · next placed =>
      have accepted : checkKeys source document = .accepted document := by
        rw [checkKeys, placed]
      exact .accept ⟨rfl, keyed_of_checkKeys accepted⟩

/-- Loading is ended by the first tag that is an array or an object. A document that is accepted is keyed
    and holds the nodes of its source; one that is rejected has an issue. -/
theorem ends_check (origin : Origin) (source : Json) :
    (check origin source).Ends (compoundTags source).head?
      fun document => document.Keyed ∧ Fills LoadsNode (nodesOf source) document := by
  have causes : (compoundTags source).head? = (nodesOf source).findSome? fun node =>
      (Node.propsOf node.2).findSome? fun prop => PropValue.compoundTag? prop.2 := by
    simp only [compoundTags, List.head?_flatMap, List.head?_filterMap]
  rw [causes]
  have nodes : (model origin (withDefault .empty .nodes (table (Node.check origin))) source).Ends
      ((nodesOf source).findSome? fun node =>
        (Node.propsOf node.2).findSome? fun prop => PropValue.compoundTag? prop.2)
      (Fills LoadsNode (nodesOf source)) := by
    refine .model ?_ fun noObject => ?_
    · rintro fields rfl
      exact .tableAt (Node.ends_check origin) .nodes fields
    · cases source with
      | obj fields => exact absurd rfl (noObject fields)
      | _ => rfl
  refine nodes.andThen fun document filled => (ends_checkKeys source document).imp ?_
  rintro _ ⟨rfl, keyed⟩
  exact ⟨keyed, filled⟩

/-- A file ends like the value that it writes; a file that writes none is reported. -/
theorem ends_ofText (text : Text) :
    (ofText text).Ends
      ((Json.read fileLimits text).toOption.bind fun source => (compoundTags source).head?) Keyed := by
  unfold ofText
  cases Json.read fileLimits text with
  | ok source => exact (ends_check .text source).imp fun _ loaded => loaded.1
  | error _ => exact .reject _ _

/-- Loading ends in one of three ways, and in the third one exactly if a prop that is looked at has an
    array or an object for its tag. A document that is accepted is keyed, and all props whose tags are
    not known are loaded as unrecognized ones. -/
theorem check_outcome (origin : Origin) (source : Json) :
    (∀ tag, check origin source = .aborted tag ↔ (compoundTags source).head? = some tag) ∧
    (∀ issues, check origin source = .rejected issues → issues ≠ []) ∧
    ∀ document, check origin source = .accepted document → document.Keyed ∧
      ∀ id node name prop, last? id (nodesOf source) = some node →
        last? name (Node.propsOf node) = some prop → prop ≠ .null → ¬ PropValue.HasKnownTag prop →
          ∃ loaded tag, document.get? id = some loaded ∧ prop.field? "type" = some (.str tag) ∧
            loaded.props.get? name =
              some (some (.unrecognized tag ((prop.field? "value").getD .null).distinct)) := by
  have ends := ends_check origin source
  refine ⟨fun tag => ends.aborted_iff, fun issues => ends.ne_nil, fun document accepted => ?_⟩
  obtain ⟨keyed, filled⟩ := ends.good_of_accepted accepted
  refine ⟨keyed, fun id node name prop isNode isProp notNull unknown => ?_⟩
  obtain ⟨loaded, isLoaded, props⟩ := filled.exists_stored isNode
  obtain ⟨stored, isStored, loads⟩ := props.exists_stored isProp
  obtain ⟨isNull, _⟩ | ⟨value, rfl, tag, unrecognized⟩ := loads
  · exact absurd isNull notNull
  · exact ⟨loaded, value.tag, isLoaded, tag, by rw [isStored, ← unrecognized unknown]⟩

/-- A document with a page that has one prop. -/
def pageSource (prop : Json) : Json :=
  .obj [("nodes", .obj [("page", .obj [
    ("id", .str "page"), ("name", .str "page"), ("type", .str "page"),
    ("props", .obj [("x", prop)])])])]

/-- A prop whose tag is not known. -/
def futureProp : Json := .obj [("type", .str "future"), ("value", .int 1)]

theorem check_outcome_future : ∃ document loaded,
    check .memory (pageSource futureProp) = .accepted document ∧ document.get? "page" = some loaded ∧
      loaded.props.get? "x" = some (some (.unrecognized "future" (.int 1))) := by
  have unknown : ¬ PropValue.HasKnownTag futureProp := by
    rintro ⟨shape, known, tagged⟩
    have same : Text.ofString "future" = shape.tag := Json.str.inj (Option.some.inj tagged)
    cases shape with
    | unrecognized => exact known rfl
    | _ => exact absurd same (by decide)
  have isAccepted : (match check .memory (pageSource futureProp) with
      | .accepted _ => true
      | _ => false) = true := by
    decide +kernel
  split at isAccepted
  · next document accepted =>
      obtain ⟨_, loads⟩ := (check_outcome .memory (pageSource futureProp)).2.2 document accepted
      obtain ⟨loaded, tag, isLoaded, isTag, isProp⟩ := loads "page" _ "x" _ rfl rfl nofun unknown
      obtain rfl : Text.ofString "future" = tag := Json.str.inj (Option.some.inj isTag)
      exact ⟨document, loaded, accepted, isLoaded, isProp⟩
  · cases isAccepted

/-- A tag that is an array ends loading without a report. -/
theorem compound_tag_ends_loading : ¬ ∀ (origin : Origin) (source : Json),
    (∃ document, check origin source = .accepted document ∧ document.Keyed) ∨
      ∃ issues, check origin source = .rejected issues := by
  intro claimed
  have aborted : check .memory (pageSource (.obj [("type", .arr [])])) = .aborted .array :=
    (ends_check .memory _).aborted_iff.mpr rfl
  rcases claimed .memory (pageSource (.obj [("type", .arr [])])) with ⟨_, accepted, _⟩ | ⟨_, rejected⟩
  · cases aborted.symm.trans accepted
  · cases aborted.symm.trans rejected

end Document

end PageCompiler
