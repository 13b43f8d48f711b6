/-
  How a check can end.

  `Ends` says at once which tag ends a check, if any, what holds of a value that is accepted, and that a
  value is never rejected without an issue. There is one rule for each way of putting checks together:
  of two independent checks the first tag from the left ends both, whatever issues stand in front of it.
-/
import Mathlib.Data.List.Forall2
import PageCompiler.Checked

namespace PageCompiler.Checked

variable {α β γ : Type} {checked : Checked α} {cause cause' : Option CompoundTag} {good : α → Prop}

/-- The check is ended by the tag if there is one. Otherwise it accepts a good value, or it lists at
    least one issue. -/
def Ends (checked : Checked α) (cause : Option CompoundTag) (good : α → Prop) : Prop :=
  match checked with
  | .accepted value => cause = none ∧ good value
  | .rejected issues => cause = none ∧ issues ≠ []
  | .aborted tag => cause = some tag

namespace Ends

theorem aborted_iff (ends : checked.Ends cause good) {tag : CompoundTag} :
    checked = .aborted tag ↔ cause = some tag := by
  cases checked with
  | accepted value => simp [ends.1]
  | rejected issues => simp [ends.1]
  | aborted other => simp [show cause = some other from ends]

theorem ne_nil (ends : checked.Ends cause good) {issues : List Issue}
    (rejected : checked = .rejected issues) : issues ≠ [] := by
  subst rejected
  exact ends.2

theorem good_of_accepted (ends : checked.Ends cause good) {value : α}
    (accepted : checked = .accepted value) : good value := by
  subst accepted
  exact ends.2

theorem imp {good' : α → Prop} (ends : checked.Ends cause good)
    (better : ∀ value, good value → good' value) : checked.Ends cause good' := by
  cases checked with
  | accepted value => exact ⟨ends.1, better value ends.2⟩
  | rejected issues => exact ends
  | aborted tag => exact ends

theorem accept {value : α} (holds : good value) : (accepted value).Ends none good := ⟨rfl, holds⟩

theorem reject (kind : IssueKind) (input : Json) :
    (Checked.reject kind input : Checked α).Ends none good :=
  ⟨rfl, List.cons_ne_nil _ _⟩

theorem map {f : α → β} {good : β → Prop} (ends : checked.Ends cause fun value => good (f value)) :
    (checked.map f).Ends cause good := by
  cases checked <;> exact ends

theorem within (step : PathStep) (ends : checked.Ends cause good) :
    (checked.within step).Ends cause good := by
  cases checked with
  | accepted value => exact ends
  | rejected issues => exact ⟨ends.1, by simpa using ends.2⟩
  | aborted tag => exact ends

theorem both {other : Checked β} {good' : β → Prop} (ends : checked.Ends cause good)
    (ends' : other.Ends cause' good') :
    (Checked.both checked other).Ends (cause.or cause') fun pair => good pair.1 ∧ good' pair.2 := by
  cases checked with
  | aborted tag =>
      obtain rfl : cause = some tag := ends
      rfl
  | accepted value =>
      obtain ⟨rfl, holds⟩ := ends
      cases other with
      | accepted value' => exact ⟨ends'.1, holds, ends'.2⟩
      | rejected issues => exact ends'
      | aborted tag => exact ends'
  | rejected issues =>
      obtain ⟨rfl, filled⟩ := ends
      cases other with
      | accepted value' => exact ⟨ends'.1, filled⟩
      | rejected issues' => exact ⟨ends'.1, by simp [filled]⟩
      | aborted tag => exact ends'

theorem andThen {next : α → Checked β} {good' : β → Prop} (ends : checked.Ends cause good)
    (later : ∀ value, good value → (next value).Ends none good') :
    (checked.andThen next).Ends cause good' := by
  cases checked with
  | accepted value =>
      obtain ⟨rfl, holds⟩ := ends
      exact later value holds
  | rejected issues => exact ends
  | aborted tag => exact ends

theorem fmap {f : α → β} {good : β → Prop} (ends : checked.Ends cause fun value => good (f value)) :
    (f <$> checked).Ends cause good :=
  ends.map

/-- The next field of a record whose earlier fields end no check. -/
theorem seq_first {build : Checked (α → β)} {good' : β → Prop}
    (first : build.Ends none fun make => ∀ value, good value → good' (make value))
    (ends : checked.Ends cause good) : (build <*> checked).Ends cause good' :=
  ((first.both ends).imp fun _ holds => holds.1 _ holds.2).map

/-- The next field of a record, of which nothing has to be known. -/
theorem seq_plain {build : Checked (α → β)} {good' : β → Prop}
    (first : build.Ends cause fun make => ∀ value, good' (make value))
    (ends : checked.Ends none fun _ => True) : (build <*> checked).Ends cause good' := by
  have both := first.both ends
  rw [Option.or_none] at both
  exact (both.imp fun _ holds => holds.1 _).map

/-- The members of a list are ended by the first tag that ends one of them. -/
theorem all {items : List α} {check : α → Checked β} {cause : α → Option CompoundTag}
    {good : α → β → Prop} (each : ∀ item ∈ items, (check item).Ends (cause item) (good item)) :
    (Checked.all (items.map check)).Ends (items.findSome? cause) (List.Forall₂ good items) := by
  induction items with
  | nil => exact .accept .nil
  | cons item items ih =>
      obtain ⟨first, later⟩ := List.forall_mem_cons.mp each
      have both := first.both (ih later)
      have causes : (item :: items).findSome? cause = (cause item).or (items.findSome? cause) := by
        rw [List.findSome?_cons]
        cases cause item <;> rfl
      rw [causes]
      exact (both.imp fun _ holds => List.Forall₂.cons holds.1 holds.2).map

theorem fieldOr {absent : Checked α} {name : FieldName} {check : Json → Checked α}
    {fields : List (Text × Json)} (missing : findField fields name = none → absent.Ends cause good)
    (present : ∀ spelling value, findField fields name = some (spelling, value) →
      (check value).Ends cause good) :
    (Checked.fieldOr absent name check fields).Ends cause good := by
  unfold Checked.fieldOr
  split
  · next spelling value found => exact (present spelling value found).within _
  · next absent => exact missing absent

theorem required {name : FieldName} {check : Json → Checked α} {fields : List (Text × Json)}
    (present : ∀ spelling value, findField fields name = some (spelling, value) →
      (check value).Ends none good) : (Checked.required name check fields).Ends none good :=
  fieldOr (fun _ => .within _ (.reject _ _)) present

theorem withDefault {default : α} {name : FieldName} {check : Json → Checked α}
    {fields : List (Text × Json)} (missing : findField fields name = none → good default)
    (present : ∀ spelling value, findField fields name = some (spelling, value) →
      (check value).Ends none good) : (Checked.withDefault default name check fields).Ends none good :=
  fieldOr (fun absent => .accept (missing absent)) present

theorem any (value : Json) : (Checked.any value).Ends none fun stored => stored = value.distinct :=
  .accept rfl

theorem string (value : Json) : (Checked.string value).Ends none fun text => value = .str text := by
  cases value <;> first | exact .accept rfl | exact .reject _ _

theorem nullable {check : Json → Checked α} {value : Json} (null : value = .null → cause = none)
    (ends : (check value).Ends cause good) :
    (Checked.nullable check value).Ends cause fun stored =>
      value = .null ∧ stored = none ∨ ∃ inner, stored = some inner ∧ good inner := by
  unfold Checked.nullable
  split
  · obtain rfl := null rfl
    exact .accept (.inl ⟨rfl, rfl⟩)
  · exact (ends.imp fun inner holds => .inr ⟨inner, rfl, holds⟩).map

theorem model {origin : Origin} {check : List (Text × Json) → Checked α} {value : Json}
    (object : ∀ fields, value = .obj fields → (check fields).Ends cause good)
    (other : (∀ fields, value ≠ .obj fields) → cause = none) :
    (Checked.model origin check value).Ends cause good := by
  unfold Checked.model
  split
  · next fields => exact object fields rfl
  · next differs =>
      rw [other differs]
      exact .reject _ _

end Ends

theorem Ends.requiredText (name : FieldName) (fields : List (Text × Json)) :
    (Checked.required name Checked.string fields).Ends none fun _ => True :=
  .required fun _ value _ => (Ends.string value).imp fun _ _ => trivial

theorem Ends.optionalText (name : FieldName) (fields : List (Text × Json)) :
    (Checked.withDefault none name (Checked.nullable Checked.string) fields).Ends none fun _ => True :=
  .withDefault (fun _ => trivial) fun _ value _ =>
    (Ends.nullable (fun _ => rfl) (Ends.string value)).imp fun _ _ => trivial

/-- A field with one spelling. -/
theorem findField_single {name : FieldName} (single : name.other = name.main)
    (fields : List (Text × Json)) :
    findField fields name = (last? name.main fields).map (name.main, ·) := by
  unfold findField
  rw [single]
  split
  · next found => rw [found]; rfl
  · next absent => rw [absent]

/-- The fields of an object. -/
def members : Json → List (Text × Json)
  | .obj fields => fields
  | _ => []

/-- The fields of the object that stands in a field. -/
def membersAt (name : FieldName) (value : Json) : List (Text × Json) :=
  match findField (members value) name with
  | some (_, inner) => members inner
  | none => []

/-- The table has the keys of the sources, and its values are good for the last source of their key. -/
def Fills (good : Json → α → Prop) (sources : List (Text × Json)) (table : Table α) : Prop :=
  ∀ key, Option.Rel good (last? key sources) (table.get? key)

theorem Fills.exists_stored {good : Json → α → Prop} {sources : List (Text × Json)} {table : Table α}
    (fills : Fills good sources table) {key : Text} {source : Json}
    (found : last? key sources = some source) :
    ∃ stored, table.get? key = some stored ∧ good source stored := by
  have related := fills key
  rw [found] at related
  cases stored : table.get? key with
  | none =>
      rw [stored] at related
      cases related
  | some value =>
      rw [stored] at related
      cases related with
      | some holds => exact ⟨value, rfl, holds⟩

/-- The pair has the name of its source, and its value is good for that of the source. -/
def Stores (good : Json → α → Prop) (source : Text × Json) (pair : Text × α) : Prop :=
  pair.1 = source.1 ∧ good source.2 pair.2

theorem rel_or {related : α → β → Prop} {left left' : Option α} {right right' : Option β}
    (first : Option.Rel related left right) (second : Option.Rel related left' right') :
    Option.Rel related (left.or left') (right.or right') := by
  cases first with
  | some holds => exact .some holds
  | none => exact second

theorem last?_rel {good : Json → α → Prop} {sources : List (Text × Json)} {pairs : List (Text × α)}
    (stored : List.Forall₂ (Stores good) sources pairs) (key : Text) :
    Option.Rel good (last? key sources) (last? key pairs) := by
  induction stored with
  | nil => exact .none
  | @cons source pair sources pairs first _ ih =>
      obtain ⟨name, stored⟩ := pair
      obtain ⟨rfl, holds⟩ := first
      rw [last?, last?]
      refine rel_or ih ?_
      split
      · exact .some holds
      · exact .none

namespace Ends

theorem table {check : Json → Checked α} {cause : Json → Option CompoundTag}
    {good : Json → α → Prop} (each : ∀ value, (check value).Ends (cause value) (good value))
    (value : Json) :
    (Checked.table check value).Ends ((members value).findSome? fun field => cause field.2)
      (Fills good (members value)) := by
  cases value with
  | obj fields =>
      have eachField : ∀ field ∈ fields,
          (((check field.2).within (.key (Text.shown field.1))).map fun inner => (field.1, inner)).Ends
            (cause field.2) (Stores good field) := fun field _ =>
        .map (((each field.2).within _).imp fun _ holds => ⟨rfl, holds⟩)
      refine .map ((all eachField).imp fun pairs stored key => ?_)
      rw [Table.get?_ofList]
      exact last?_rel stored key
  | _ => exact .reject _ _

theorem tableAt {check : Json → Checked α} {cause : Json → Option CompoundTag}
    {good : Json → α → Prop} (each : ∀ value, (check value).Ends (cause value) (good value))
    (name : FieldName) (fields : List (Text × Json)) :
    (Checked.withDefault .empty name (Checked.table check) fields).Ends
      ((membersAt name (.obj fields)).findSome? fun field => cause field.2)
      (Fills good (membersAt name (.obj fields))) := by
  refine fieldOr (fun absent => ?_) fun spelling value found => ?_
  · have none_ : membersAt name (.obj fields) = [] := by
      simp [membersAt, members, absent]
    rw [none_]
    exact .accept fun key => .none
  · have some_ : membersAt name (.obj fields) = members value := by
      simp [membersAt, members, found]
    rw [some_]
    exact table each value

end Ends

end PageCompiler.Checked
