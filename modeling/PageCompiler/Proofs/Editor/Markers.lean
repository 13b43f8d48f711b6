/-
  The markers of the editor.

  Each node that is rendered for the editor is wrapped in an element with an attribute for the node's
  id, and each slot of child elements in one for the slot's name. The attribute is written as a string
  literal, which is not how attributes are read: it gives back ids and names that are verbatim and no
  others (`Markup.markers_read_iff`). An id with an accent is written with an escape and read as the
  escape (`Markup.marker_misread`).
-/
import PageCompiler.Proofs.Editor.Attributes
import PageCompiler.Proofs.Started

namespace PageCompiler

open Compile

namespace Markup

variable {env : Environment} {node : Node} {component : Component} {argument : Argument}
  {tag name value text slot marker : Text} {code : Code} {props : Props} {before after : Tables}

/-- The text is an element whose only attribute is written for the value. -/
def Carries (tag name value text : Text) : Prop :=
  ∃ content, text =
    "<" ++ tag ++ " " ++ Attribute.written name value ++ ">" ++ content ++ "</" ++ tag ++ ">"

theorem carries_wrap (tag name value content : Text) :
    Carries tag name value (wrap tag name value content) :=
  ⟨content, by simp only [wrap, Attribute.written, List.append_assoc]⟩

/-- A node with a component is rendered within its marker. -/
theorem carries_renderNode (editing : env.editor = true) (rendered : env.component? node = some component)
    (ran : (renderNode env node).run before = .ok code after) :
    Carries (env.runtimeName ++ ".RuntimeStudioNode") "nodeId" node.id code.text := by
  rw [renderNode] at ran
  cases bound : env.snapshot.depthBound with
  | zero =>
      rw [bound] at ran
      cases ran
  | succ fuel =>
      rw [bound, renderWithin, rendered] at ran
      obtain ⟨slots, _, _, ran⟩ := run_bind_eq_ok.mp ran
      obtain ⟨props, _, _, ran⟩ := run_bind_eq_ok.mp ran
      obtain ⟨content, _, _, ran⟩ := run_bind_eq_ok.mp ran
      rw [if_pos editing] at ran
      cases ran
      exact carries_wrap _ _ _ _

/-- The slot holds an element with a marker for it. -/
def SlotCarries (env : Environment) (marker slot : Text) (props : Props) : Prop :=
  ∃ code, props.get? slot = some code ∧
    Carries (env.runtimeName ++ "." ++ marker) "prop" slot code.text

theorem slotCarries_insert (marker slot content : Text) (props : Props) :
    SlotCarries env marker slot (props.insert slot
      ⟨.element, wrap (env.runtimeName ++ "." ++ marker) "prop" slot content⟩) :=
  ⟨_, Table.get?_insert_self _ _ _, carries_wrap _ _ _ _⟩

/-- Each slot that an argument declares is marked. -/
theorem slotCarries_markSlots (declared : component.arguments.get? slot = some (some argument))
    (marked : slotMarker? argument = some marker) :
    SlotCarries env marker slot (markSlots env component props) := by
  obtain ⟨earlier, later, cut⟩ := List.append_of_mem (Table.mem_entries_iff.mpr declared)
  rw [markSlots, cut, List.foldl_append, List.foldl_cons]
  -- The argument marks its slot, and whatever writes to the slot later is the same argument.
  refine List.foldlRecOn _ _ ?_ fun props carries entry member => ?_
  · rw [Option.bind_some, marked]
    exact slotCarries_insert _ _ _ _
  · obtain ⟨name, other⟩ := entry
    have stored : component.arguments.get? name = some other := by
      rw [← Table.mem_entries_iff, cut]
      exact List.mem_append_right _ (List.mem_cons_of_mem _ member)
    by_cases same : name = slot
    · subst same
      cases declared.symm.trans stored
      rw [Option.bind_some, marked]
      exact slotCarries_insert _ _ _ _
    · split
      · exact carries
      · obtain ⟨code, found, carried⟩ := carries
        exact ⟨code, (Table.get?_insert_of_ne _ (Ne.symm same)).trans found, carried⟩

theorem slotCarries_renderSlots {render : Node → Compile Code} (editing : env.editor = true)
    (rendered : env.component? node = some component)
    (ran : (renderSlots env render node).run before = .ok props after)
    (declared : component.arguments.get? slot = some (some argument))
    (marked : slotMarker? argument = some marker) : SlotCarries env marker slot props := by
  obtain ⟨slots, _, _, ran⟩ := run_bind_eq_ok.mp ran
  rw [editing, rendered] at ran
  cases ran
  exact slotCarries_markSlots declared marked

/-- The attributes of the markers of a node and of its slots are read as the id and as the names of the
    slots if and only if these are verbatim. -/
theorem markers_read_iff (names : Text → Option CodePoint) (editing : env.editor = true)
    (rendered : env.component? node = some component) :
    (∀ {before after : Tables} {code : Code}, (renderNode env node).run before = .ok code after →
      Carries (env.runtimeName ++ ".RuntimeStudioNode") "nodeId" node.id code.text ∧
        (Attribute.GivesBack names "nodeId" node.id ↔ Attribute.Verbatim names node.id)) ∧
      ∀ {render : Node → Compile Code} {before after : Tables} {props : Props},
        (renderSlots env render node).run before = .ok props after →
        ∀ {slot : Text} {argument : Argument} {marker : Text},
          component.arguments.get? slot = some (some argument) →
          slotMarker? argument = some marker →
          SlotCarries env marker slot props ∧
            (Attribute.GivesBack names "prop" slot ↔ Attribute.Verbatim names slot) := by
  constructor
  · intro before after code ran
    exact ⟨carries_renderNode editing rendered ran, Attribute.givesBack_iff (by decide)⟩
  · intro render before after props ran slot argument marker declared marked
    exact ⟨slotCarries_renderSlots editing rendered ran declared marked,
      Attribute.givesBack_iff (by decide)⟩

end Markup

namespace Accented

def page : Node := ⟨"page", "page", .empty, none, none, none, .page []⟩

/-- An element whose id has an accent. -/
def panel : Node := ⟨"café", "panel", .empty, some "page", none, none, .element "Paper"⟩

def document : Document := .ofList [("page", page), ("café", panel)]

/-- Names that characters have in attributes, some of many. -/
def names : Text → Option CodePoint :=
  (Table.ofList [("amp", CodePoint.char '&'), ("lt", CodePoint.char '<'), ("gt", CodePoint.char '>'),
    ("quot", CodePoint.char '\x22')]).get?

/-- The page, its slots and the element can be rendered for the editor. -/
theorem exists_rendered : ∃ env started collected,
    Environment.start document Catalog.builtin true page = .ok (env, started) ∧
      (Collection.collectPage env).run started = .ok () collected ∧
      (∃ code after, (Markup.renderNode env page).run collected = .ok code after) ∧
      (∃ slots after, (Markup.renderChildren env page).run collected = .ok slots after) ∧
      ∃ code after, (Markup.renderNode env panel).run collected = .ok code after := by
  have checked : Environment.collectsSuch document Catalog.builtin true page (fun env collected =>
      ((Markup.renderNode env page).run' collected).isSome &&
        ((Markup.renderChildren env page).run' collected).isSome &&
        ((Markup.renderNode env panel).run' collected).isSome) = true := by decide +kernel
  obtain ⟨env, started, collected, start_ok, ran, rendered⟩ := Environment.exists_collected checked
  rw [Bool.and_eq_true, Bool.and_eq_true] at rendered
  obtain ⟨⟨pageRendered, slotsRendered⟩, panelRendered⟩ := rendered
  exact ⟨env, started, collected, start_ok, ran, exists_run_of_run' pageRendered,
    exists_run_of_run' slotsRendered, exists_run_of_run' panelRendered⟩

end Accented

namespace Markup

theorem markers_read_iff_accented : ∃ env collected code slots after after',
    env.component? Accented.page = some Component.page ∧
      (renderNode env Accented.page).run collected = .ok code after ∧
      Carries (env.runtimeName ++ ".RuntimeStudioNode") "nodeId" "page" code.text ∧
      Attribute.GivesBack Accented.names "nodeId" "page" ∧
      (renderChildren env Accented.page).run collected = .ok slots after' ∧
      SlotCarries env "Slots" "children" slots ∧
      Attribute.GivesBack Accented.names "prop" "children" := by
  obtain ⟨env, _, collected, start_ok, _, ⟨code, after, ran⟩, ⟨slots, after', slotsRan⟩, _⟩ :=
    Accented.exists_rendered
  obtain ⟨-, -, isCatalog, isEditor⟩ := Environment.start_given start_ok
  have rendered : env.component? Accented.page = some Component.page := by
    rw [Environment.component?, isCatalog]
    rfl
  obtain ⟨ofNode, ofSlots⟩ := markers_read_iff Accented.names isEditor rendered
  obtain ⟨carries, readId⟩ := ofNode ran
  have declared : Component.page.arguments.get? "children" = some (some Component.manyChildren) := rfl
  have marked : slotMarker? Component.manyChildren = some "Slots" := rfl
  obtain ⟨slotCarries, readSlot⟩ := ofSlots slotsRan declared marked
  exact ⟨env, collected, code, slots, after, after', rendered, ran, carries,
    readId.mpr (.of_plain (by decide) (by decide)), slotsRan, slotCarries,
    readSlot.mpr (.of_plain (by decide) (by decide))⟩

/-- Not every id is read from the marker of its node. -/
theorem marker_misread : ¬ ∀ (names : Text → Option CodePoint) (document : Document)
    (catalog : Catalog) (page : Node) (env : Environment) (started collected : Tables),
      document.Keyed → page ∈ document.values →
      Environment.start document catalog true page = .ok (env, started) →
      (Collection.collectPage env).run started = .ok () collected →
      ∀ node ∈ document.values, ∀ (component : Component) (code : Code) (after : Tables),
        env.component? node = some component →
        (renderNode env node).run collected = .ok code after →
        Carries (env.runtimeName ++ ".RuntimeStudioNode") "nodeId" node.id code.text ∧
          Attribute.GivesBack names "nodeId" node.id := by
  intro claimed
  obtain ⟨env, started, collected, start_ok, ran, _, _, code, after, rendered⟩ :=
    Accented.exists_rendered
  obtain ⟨-, -, isCatalog, -⟩ := Environment.start_given start_ok
  have isPaper : env.component? Accented.panel = some Component.paper := by
    rw [Environment.component?, isCatalog]
    rfl
  obtain ⟨_, givesBack⟩ := claimed Accented.names _ _ _ env started collected (by decide)
    List.mem_cons_self start_ok ran Accented.panel (Table.mem_values_iff.mpr ⟨"café", rfl⟩) _ code after
    isPaper rendered
  have verbatim := (Attribute.givesBack_iff (by decide)).mp givesBack
  have accent : CodePoint.char 'é' ∈ Accented.panel.id := by decide
  exact absurd (verbatim.plain _ accent).1 (by decide)

end Markup

end PageCompiler
