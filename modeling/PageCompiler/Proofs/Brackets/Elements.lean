/-
  Elements are balanced if their parts are.

  The names of attributes stand in the text as they are, so they must be free of quotes and brackets;
  the names in an object literal are string literals and can be anything. The components that are always
  at hand write balanced elements from such props, under any alias that is an identifier.
-/
import PageCompiler.Compilation.Markup
import PageCompiler.Proofs.Brackets.Literals
import PageCompiler.Proofs.Safety
import PageCompiler.Proofs.TableLaws

namespace PageCompiler

open Layout

namespace Code

/-- The code, if there is any, is balanced. -/
def AllBalanced (code : Option Code) : Prop := ∀ given ∈ code, Balanced given.text

variable {code : Option Code}

theorem balanced_asExpression (balanced : AllBalanced code) : Balanced (asExpression code) := by
  unfold asExpression
  split
  · exact Unmarked.balanced (by decide)
  · exact ((Path.fixed "<>" rfl).hold (balanced _ rfl)).write "</>" rfl
  · exact balanced _ rfl

theorem balanced_asContent (balanced : AllBalanced code) : Balanced (asContent code) := by
  unfold asContent
  split
  · exact .nil
  · exact ((Path.fixed "\x7b" rfl).hold (balanced _ rfl)).write "\x7d" rfl
  · exact balanced _ rfl

end Code

namespace Props

/-- All code is balanced. -/
def Balanced (props : Props) : Prop :=
  ∀ name code, props.get? name = some code → Layout.Balanced code.text

/-- All names can be written as attributes. -/
def Named (props : Props) : Prop := ∀ name code, props.get? name = some code → Unmarked name

/-- The props can be written into an element. -/
structure Writable (props : Props) : Prop where
  balanced : props.Balanced
  named : props.Named

variable {props : Props} {name tag : Text} {code : Code}

theorem Balanced.insert (balanced : props.Balanced) (name : Text) (new : Layout.Balanced code.text) :
    Props.Balanced (props.insert name code) := by
  intro other stored found
  rw [Table.get?_insert] at found
  split at found
  · cases found
    exact new
  · exact balanced other stored found

theorem Named.insert (named : props.Named) (new : Unmarked name) (code : Code) :
    Props.Named (props.insert name code) := by
  intro other stored found
  rw [Table.get?_insert] at found
  split at found
  · next same => rwa [same]
  · exact named other stored found

theorem get?_of_erase {erased : Text} (found : (props.erase erased).get? name = some code) :
    props.get? name = some code :=
  Table.mem_entries_iff.mp (List.mem_filter.mp (Table.mem_entries_iff.mpr found)).1

theorem Balanced.erase (balanced : props.Balanced) (name : Text) : Props.Balanced (props.erase name) :=
  fun other stored found => balanced other stored (get?_of_erase found)

theorem Named.erase (named : props.Named) (name : Text) : Props.Named (props.erase name) :=
  fun other stored found => named other stored (get?_of_erase found)

theorem Writable.insert (writable : props.Writable) (plain : Unmarked name)
    (new : Layout.Balanced code.text) : Props.Writable (props.insert name code) :=
  ⟨writable.balanced.insert name new, writable.named.insert plain code⟩

theorem Writable.erase (writable : props.Writable) (name : Text) : Props.Writable (props.erase name) :=
  ⟨writable.balanced.erase name, writable.named.erase name⟩

theorem writable_empty : Props.Writable .empty :=
  ⟨fun _ _ found => (nomatch found), fun _ _ found => (nomatch found)⟩

theorem Balanced.get (balanced : props.Balanced) (name : Text) : Code.AllBalanced (props.get? name) :=
  fun given found => balanced name given found

theorem Balanced.entry (balanced : props.Balanced) {entry : Text × Code}
    (member : entry ∈ props.entries) : Code.AllBalanced (some entry.2) := by
  rintro _ ⟨⟩
  exact balanced entry.1 entry.2 (Table.mem_entries_iff.mp member)

theorem balanced_attributes (writable : props.Writable) : Layout.Balanced props.attributes := by
  refine .intercalate (Unmarked.balanced (by decide)) fun piece member => ?_
  obtain ⟨entry, inside, rfl⟩ := List.mem_map.mp member
  unfold attributeText
  split
  · exact writable.balanced.entry inside _ rfl
  · have isName : Unmarked entry.1 := writable.named entry.1 entry.2 (Table.mem_entries_iff.mp inside)
    have value := Code.balanced_asExpression (writable.balanced.entry inside)
    exact ((Path.write isName.balanced "=\x7b" rfl).hold value).write "\x7d" rfl

theorem balanced_objectLiteral (balanced : props.Balanced) : Layout.Balanced props.objectLiteral := by
  refine ((Path.fixed "\x7b" rfl).hold ?_).write "\x7d" rfl
  refine .intercalate (Unmarked.balanced (by decide)) fun piece member => ?_
  obtain ⟨entry, inside, rfl⟩ := List.mem_map.mp member
  have value := Code.balanced_asExpression (balanced.entry (List.mem_filter.mp inside).1)
  exact (Path.write (Json.balanced_stringLiteral entry.1) ": " rfl).hold value

theorem balanced_element (isTag : Unmarked tag) (writable : props.Writable) :
    Layout.Balanced (element tag props) := by
  have start : Layout.Balanced (if (Props.attributes (props.erase Code.contentProp)).isEmpty then tag
      else tag ++ " " ++ Props.attributes (props.erase Code.contentProp)) := by
    split
    · exact isTag.balanced
    · exact (Path.write isTag.balanced " " rfl).hold
        (balanced_attributes (writable.erase _))
  have opened : Path 0 0 _ := (Path.fixed "<" rfl).hold start
  unfold element
  dsimp only
  split
  · exact opened.write " />" rfl
  · next content found =>
      have inside := Code.balanced_asContent (writable.balanced.get Code.contentProp)
      rw [found] at inside
      exact ((((opened.write ">" rfl).hold inside).write "</" rfl).hold isTag.balanced).write ">" rfl

end Props

/-- Whatever identifiers the script is given as aliases, it ends in a balanced text. -/
def RenderScript.Balanced : RenderScript → Prop
  | .done text => Layout.Balanced text
  | .importing _ _ _ next => ∀ name, Neutral name → (next name).Balanced

/-- What the argument brings into a module is free of quotes and brackets. -/
def Argument.Unmarked (argument : Argument) : Prop :=
  (∀ prop ∈ argument.changeProp, Layout.Unmarked prop) ∧
    (∀ prop ∈ argument.defaultProp, Layout.Unmarked prop) ∧
    ∀ handler ∈ argument.changeHandler, (∀ param ∈ handler.params, Layout.Unmarked param) ∧
      Layout.Unmarked handler.valueGetter

instance : DecidablePred Argument.Unmarked := fun argument =>
  inferInstanceAs (Decidable ((∀ prop ∈ argument.changeProp, Layout.Unmarked prop) ∧
    (∀ prop ∈ argument.defaultProp, Layout.Unmarked prop) ∧
    ∀ handler ∈ argument.changeHandler, (∀ param ∈ handler.params, Layout.Unmarked param) ∧
      Layout.Unmarked handler.valueGetter))

/-- From balanced props the component renders balanced text, and all else it brings into a module is
    free of quotes and brackets. -/
structure Component.Bracketed (component : Component) : Prop where
  arguments : ∀ name argument, component.arguments.get? name = some (some argument) →
    Unmarked name ∧ argument.Unmarked
  renders : ∀ props : Props, props.Writable → (component.render props).Balanced
  symbols : ∀ props source symbol suggestion, (component.render props).Asks source symbol suggestion →
    Unmarked symbol

/-- All components of the catalog are bracketed. -/
def Catalog.Bracketed (catalog : Catalog) : Prop :=
  ∀ component ∈ catalog.values, component.Bracketed

namespace Component

variable {props : Props}

theorem balanced_renderAs (symbol : Text) (writable : props.Writable) :
    (renderAs symbol props).Balanced :=
  fun _ neutral => Props.balanced_element neutral.unmarked writable

theorem writable_asContent (writable : props.Writable) (prop : Text) :
    (asContent prop props).Writable := by
  unfold asContent
  split
  · exact writable
  · next found => exact (writable.erase prop).insert (by decide) (writable.balanced _ _ found)

theorem balanced_renderDataGrid (writable : props.Writable) : (renderDataGrid props).Balanced := by
  intro name neutral
  have size : Layout.Balanced "\x22100%\x22" := Json.balanced_stringLiteral "100%"
  have opening : Layout.Balanced "<div style=\x7b\x7b height: 350, width: \x22100%\x22 \x7d\x7d>" :=
    ((Path.fixed "<div style=\x7b\x7b height: 350, width: " rfl).hold size).write " \x7d\x7d>" rfl
  exact (opening.append (Props.balanced_element neutral.unmarked writable)).write "</div>" rfl

theorem balanced_renderSelect (writable : props.Writable) : (renderSelect props).Balanced := by
  intro textField isField menuItem isItem
  have options := Code.balanced_asExpression (writable.balanced.get "options")
  have items : Path 0 0 _ := ((((((Path.fixed "\x7b(" rfl).hold options).write
    " ?? []).map((option) => <" rfl).hold isItem.balanced).write
      " key=\x7boption\x7d value=\x7boption\x7d>\x7boption\x7d</" rfl).hold isItem.balanced).write
        ">)\x7d" rfl
  have selected : Props.Writable ((props.erase "options").insert "select" (.expression "true")) :=
    (writable.erase "options").insert (by decide) (Unmarked.balanced (by decide))
  exact Props.balanced_element isField.unmarked (selected.insert (by decide) items)

theorem bracketed_declare {description : Text} {arguments : List (Text × Argument)}
    {render : Props → RenderScript}
    (unmarked : ∀ entry ∈ arguments, Unmarked entry.1 ∧ entry.2.Unmarked)
    (renders : ∀ props : Props, props.Writable → (render props).Balanced)
    (symbols : ∀ props source symbol suggestion, (render props).Asks source symbol suggestion →
      Unmarked symbol) : (declare description arguments render).Bracketed := by
  refine ⟨fun name argument declared => ?_, renders, symbols⟩
  obtain ⟨entry, member, same⟩ := List.mem_map.mp (Table.mem_of_get?_ofList declared)
  cases same
  exact unmarked entry member

/-- A component that renders its props, possibly moved, on one imported component. -/
theorem bracketed_renderAs {description symbol : Text} {arguments : List (Text × Argument)}
    (moved : Props → Props)
    (unmarked : ∀ entry ∈ arguments, Unmarked entry.1 ∧ entry.2.Unmarked) (plain : Unmarked symbol)
    (keeps : ∀ props : Props, props.Writable → (moved props).Writable) :
    (declare description arguments fun props => renderAs symbol (moved props)).Bracketed := by
  refine bracketed_declare unmarked (fun props writable => ?_) fun _ _ _ _ asks => ?_
  · exact balanced_renderAs symbol (keeps props writable)
  · cases asks with
    | now => exact plain
    | later asks => cases asks

theorem bracketed_select : select.Bracketed := by
  refine bracketed_declare (by decide) (fun _ => balanced_renderSelect) fun _ _ _ _ asks => ?_
  cases asks with
  | now => decide
  | later asks =>
      cases asks with
      | now => decide
      | later asks => cases asks

theorem bracketed_dataGrid : dataGrid.Bracketed := by
  refine bracketed_declare (by decide) (fun _ => balanced_renderDataGrid) fun _ _ _ _ asks => ?_
  cases asks with
  | now => decide
  | later asks => cases asks

end Component

open Component in
/-- The components that are always at hand are bracketed. -/
theorem bracketed_builtin : Catalog.builtin.Bracketed := by
  intro component member
  have components : Catalog.builtin.values = [page, stack, paper, button, textField, select, typography,
      dataGrid] := rfl
  rw [components] at member
  simp only [List.mem_cons, List.not_mem_nil, or_false] at member
  rcases member with rfl | rfl | rfl | rfl | rfl | rfl | rfl | rfl
  · exact bracketed_renderAs id (by decide) (by decide) fun _ => id
  · exact bracketed_renderAs id (by decide) (by decide) fun _ => id
  · exact bracketed_renderAs id (by decide) (by decide) fun _ => id
  · exact bracketed_renderAs (asContent "label") (by decide) (by decide)
      fun _ writable => writable_asContent writable _
  · exact bracketed_renderAs id (by decide) (by decide) fun _ => id
  · exact bracketed_select
  · exact bracketed_renderAs (asContent "value") (by decide) (by decide)
      fun _ writable => writable_asContent writable _
  · exact bracketed_dataGrid

namespace Markup

theorem balanced_wrap {tag attributeName value content : Text} (isTag : Unmarked tag)
    (isName : Unmarked attributeName) (inside : Balanced content) :
    Balanced (wrap tag attributeName value content) := by
  have opening : Path 0 0 _ := ((((Path.fixed "<" rfl).hold isTag.balanced).write " " rfl).hold
    isName.balanced).write "=" rfl
  exact (((((opening.hold (Json.balanced_stringLiteral value)).write ">" rfl).hold inside).write "</"
    rfl).hold isTag.balanced).write ">" rfl

/-- Marking the slots of a component leaves its props writable. -/
theorem writable_markSlots {env : Environment} {component : Component} {props : Props}
    (runtime : Unmarked env.runtimeName) (bracketed : component.Bracketed) (writable : props.Writable) :
    (markSlots env component props).Writable := by
  unfold markSlots
  refine List.foldlRecOn (motive := Props.Writable) _ _ writable ?_
  rintro props writable ⟨name, argument⟩ member
  dsimp only
  split
  · exact writable
  · next marker marks =>
      obtain ⟨given, isGiven, isMarker⟩ := Option.bind_eq_some_iff.mp marks
      subst isGiven
      have isName := (bracketed.arguments name given (Table.mem_entries_iff.mp member)).1
      refine writable.insert isName (balanced_wrap ?_ (by decide)
        (Code.balanced_asContent (writable.balanced.get name)))
      refine List.forall_mem_append.mpr ⟨List.forall_mem_append.mpr ⟨runtime, by decide⟩, ?_⟩
      unfold slotMarker? at isMarker
      split_ifs at isMarker <;> cases isMarker <;> decide

end Markup

end PageCompiler
