/-
  What becomes of child content when the props of a node are resolved.

  Child content is there before anything else is resolved, and what a document or a default gives is not
  written over it. Two things are. The change prop of an argument is written without a look at the slots,
  so that the last argument with a cell takes the slot (`handler?`). And the spread attributes of queries
  are put behind whatever stands under their name (`withSpread`). In every other slot the content stays
  what it was; `content_overwritten` is a page on which it does not.
-/
import PageCompiler.Proofs.PageRun
import PageCompiler.Proofs.WrittenProps

namespace PageCompiler

open Compile

namespace ResolvedProps

variable {env : Environment} {node : Node} {seed props next : Props} {before after : Tables}
  {slot : Text} {code : Code} {types : Table Text}

/-- The slot is filled with the code. -/
def Holds (slot : Text) (code : Code) (props : Props) : Prop := props.get? slot = some code

theorem contains_of_get? (found : props.get? slot = some code) : props.contains slot = true := by
  rw [Table.contains, found]
  rfl

/-- The code that wiring an argument writes to the slot. An argument with child content is not wired. -/
def handlerOf? (tables : Tables) (node : Node) (seed : Props) (slot : Text)
    (entry : Text × Option Argument) : Option Code :=
  match entry.2 with
  | none => none
  | some argument =>
      if seed.contains entry.1 = false ∧ argument.changeProp = some slot ∧ slot ≠ [] then
        (tables.cell? node.id entry.1).map fun cell => .expression (setterCode argument cell)
      else none

/-- The code that the last argument to be wired writes to the slot. -/
def handler? (env : Environment) (tables : Tables) (node : Node) (seed : Props) (slot : Text) :
    Option Code :=
  (env.component? node).bind fun component =>
    (component.arguments.entries.filterMap (handlerOf? tables node seed slot)).getLast?

theorem get?_wireCell {name : Text} {argument : Argument} {cell : Cell} (differs : slot ≠ name) :
    (wireCell props name argument cell).get? slot =
      if argument.changeProp = some slot ∧ slot ≠ [] then
        some (.expression (setterCode argument cell))
      else props.get? slot := by
  unfold wireCell
  split
  · next isNone =>
      rw [if_neg (by simp [isNone]), Table.get?_insert_of_ne _ differs]
  · next isEmpty =>
      have noSlot : ¬ (argument.changeProp = some slot ∧ slot ≠ []) := by
        rintro ⟨isSlot, nonempty⟩
        exact nonempty (Option.some.inj (isSlot.symm.trans isEmpty))
      rw [if_neg noSlot, Table.get?_insert_of_ne _ differs]
  · next changeProp nonempty isProp =>
      rw [Table.get?_insert, Table.get?_insert_of_ne _ differs, isProp]
      by_cases same : slot = changeProp
      · subst same
        rw [if_pos rfl, if_pos ⟨rfl, nonempty⟩]
      · rw [if_neg same, if_neg fun both => same (Option.some.inj both.1).symm]

theorem getLast?_filterMap_cons {α β : Type} (f : α → Option β) (item : α) (rest : List α) :
    ((item :: rest).filterMap f).getLast? = ((rest.filterMap f).getLast?).or (f item) := by
  rw [List.filterMap_cons]
  cases f item with
  | none => simp
  | some value =>
      rw [List.getLast?_cons]
      cases (rest.filterMap f).getLast? <;> rfl

/-- The last argument to be wired decides about the slot. -/
theorem get?_addCells {component : Component} {tables : Tables} (filled : seed.contains slot = true) :
    (addCells tables node component seed props).get? slot =
      ((component.arguments.entries.filterMap (handlerOf? tables node seed slot)).getLast?).or
        (props.get? slot) := by
  unfold addCells
  generalize component.arguments.entries = entries
  induction entries generalizing props with
  | nil => rfl
  | cons entry rest ih =>
      rw [List.foldl_cons, ih, getLast?_filterMap_cons, Option.or_assoc]
      refine congrArg _ ?_
      obtain ⟨name, declared⟩ := entry
      cases declared with
      | none => rfl
      | some argument =>
          dsimp only [handlerOf?]
          by_cases taken : seed.contains name = true
          · rw [if_pos taken, if_neg (by simp [taken])]
            rfl
          · have differs : slot ≠ name := fun same => taken (same ▸ filled)
            have isOpen : seed.contains name = false := Bool.not_eq_true _ ▸ taken
            rw [if_neg taken]
            cases tables.cell? node.id name with
            | none => simp
            | some cell =>
                dsimp only
                rw [get?_wireCell differs]
                by_cases writes : argument.changeProp = some slot ∧ slot ≠ []
                · rw [if_pos writes, if_pos ⟨isOpen, writes⟩]
                  rfl
                · rw [if_neg writes, if_neg fun both => writes both.2]
                  rfl

/-- Defaults leave what is there. -/
theorem get?_addDefaults {component : Component} (found : props.get? slot = some code) :
    (addDefaults component props).get? slot = some code := by
  have kept : Holds slot code (addDefaults component props) := by
    refine addDefaults_keeps found fun props name argument value kept _ _ absent => ?_
    have differs : slot ≠ defaultTarget name argument := by
      rintro rfl
      cases absent.symm.trans (contains_of_get? kept)
    rwa [Holds, Table.get?_insert_of_ne _ differs]
  exact kept

/-- The query whose result is spread for a prop of the document that has no child content. -/
def spreadQuery? (types : Table Text) (seed : Props) (entry : Text × Option PropValue) :
    Option Text :=
  if seed.contains entry.1 then none
  else (types.get? entry.1).bind fun valueType => entry.2.bind (queryOf? valueType)

/-- The code with the spread attributes of a loader behind it. -/
def withSpread (code : Code) (loader : Text) : Code :=
  .expression (code.text ++ " " ++ ("\x7b..." ++ loader ++ "\x7d"))

/-- The spread attributes of a loader. -/
def spreadText (loader : Text) : Text := "\x7b..." ++ loader ++ "\x7d"

/-- What stands under the name of the spread attributes, with those of a loader behind it. -/
def addSpread (current : Option Code) (loader : Text) : Option Code :=
  some (current.elim (.expression (spreadText loader)) (withSpread · loader))

theorem get?_appendSpread (props : Props) (loader : Text) :
    (appendSpread props (spreadText loader)).get? Code.spreadProp =
      addSpread (props.get? Code.spreadProp) loader := by
  rw [appendSpread, Table.get?_insert_self]
  cases props.get? Code.spreadProp <;> rfl

theorem foldl_addSpread (code : Code) (loaders : List Text) :
    loaders.foldl addSpread (some code) = some (loaders.foldl withSpread code) := by
  induction loaders generalizing code with
  | nil => rfl
  | cons loader loaders ih => exact ih (withSpread code loader)

/-- No prop of its own is written under the name of the spread attributes, because none is declared or
    something stands there. -/
def SpreadOnly (types : Table Text) (props : Props) : Prop :=
  types.get? Code.spreadProp = none ∨ props.contains Code.spreadProp = true

/-- What the document gives for other props leaves the slot alone. -/
theorem get?_addEntry {entry : Text × Option PropValue} (noSpread : slot ≠ Code.spreadProp)
    (found : props.get? slot = some code)
    (ran : (addEntry node types props entry).run before = .ok next after) :
    next.get? slot = some code := by
  unfold addEntry at ran
  split at ran
  · split at ran
    · cases ran
      exact found
    · next isOpen =>
        have differs : slot ≠ entry.1 := fun same => isOpen (same ▸ contains_of_get? found)
        rcases addAuthored_cases ran with ⟨_, rfl | ⟨written, _, rfl⟩⟩ | ⟨query, loader, _, _, rfl⟩
        · exact found
        · rwa [Table.get?_insert_of_ne _ differs]
        · rwa [appendSpread, Table.get?_insert_of_ne _ noSpread]
  · cases ran
    exact found

theorem get?_addAllAuthored (noSpread : slot ≠ Code.spreadProp)
    (found : seed.get? slot = some code)
    (ran : (addAllAuthored env node seed).run before = .ok props after) :
    props.get? slot = some code := by
  have kept : Holds slot code props := by
    refine Follows.foldlM_keeps (renders_addEntry node (env.propTypes node)) ?_ ran found
    intro props entry next first second _ _ passed _ kept
    exact get?_addEntry noSpread kept passed
  exact kept

/-- A query adds its result behind the spread attributes, any other prop leaves them alone. The slots
    of the other props stay as open as they were. -/
theorem addEntry_spread {entry : Text × Option PropValue} (only : SpreadOnly types props)
    (ran : (addEntry node types props entry).run before = .ok next after) :
    (match spreadQuery? types props entry with
      | none => next.get? Code.spreadProp = props.get? Code.spreadProp
      | some query => ∃ loader, after.loaders.get? query = some loader ∧
          next.get? Code.spreadProp = addSpread (props.get? Code.spreadProp) loader) ∧
      ∀ name, name ≠ Code.spreadProp → name ≠ entry.1 → next.contains name = props.contains name := by
  unfold addEntry at ran
  unfold spreadQuery?
  split at ran
  · next valueType value isType isValue =>
      rw [isType, isValue]
      by_cases contained : props.contains entry.1 = true
      · rw [if_pos contained] at ran
        cases ran
        rw [if_pos contained]
        exact ⟨rfl, fun _ _ _ => rfl⟩
      · rw [if_neg contained] at ran
        rw [if_neg contained, Option.bind_some, Option.bind_some]
        have differs : Code.spreadProp ≠ entry.1 := by
          intro same
          rcases only with noType | filled
          · rw [same, isType] at noType
            cases noType
          · exact contained (same ▸ filled)
        rcases addAuthored_cases ran with ⟨noQuery, rfl | ⟨written, _, rfl⟩⟩ |
          ⟨query, loader, isNamed, loaded, rfl⟩
        · rw [noQuery]
          exact ⟨rfl, fun _ _ _ => rfl⟩
        · rw [noQuery]
          refine ⟨Table.get?_insert_of_ne _ differs, fun other _ apart => ?_⟩
          rw [Table.contains_insert, beq_false_of_ne apart, Bool.false_or]
        · rw [isNamed]
          have inTable := ((ends_useLoader query).of_ok loaded).2
          refine ⟨⟨loader, inTable, get?_appendSpread props loader⟩, fun other noSpread _ => ?_⟩
          rw [appendSpread, Table.contains_insert, beq_false_of_ne noSpread, Bool.false_or]
  · next noValue =>
      cases ran
      have noQuery : ((types.get? entry.1).bind fun valueType =>
          entry.2.bind (queryOf? valueType)) = none := by
        cases isType : types.get? entry.1 with
        | none => rfl
        | some valueType =>
            cases isValue : entry.2 with
            | none => rfl
            | some value => exact (noValue _ _ isType isValue).elim
      rw [noQuery, ite_self]
      exact ⟨rfl, fun _ _ _ => rfl⟩

theorem SpreadOnly.pass {entry : Text × Option PropValue} (only : SpreadOnly types props)
    (ran : (addEntry node types props entry).run before = .ok next after) : SpreadOnly types next := by
  refine only.imp id fun filled => ?_
  obtain ⟨code, found⟩ := Option.isSome_iff_exists.mp filled
  have spread := (addEntry_spread (.inr filled) ran).1
  split at spread
  · exact contains_of_get? (spread.trans found)
  · obtain ⟨_, _, isSpread⟩ := spread
    exact contains_of_get? isSpread

/-- Which queries are spread depends on the open slots only. -/
theorem spreadQuery?_congr {entry : Text × Option PropValue} (only : SpreadOnly types props)
    (onlySeed : SpreadOnly types seed)
    (same : entry.1 ≠ Code.spreadProp → props.contains entry.1 = seed.contains entry.1) :
    spreadQuery? types props entry = spreadQuery? types seed entry := by
  have noSpread : ∀ {props : Props}, SpreadOnly types props → entry.1 = Code.spreadProp →
      spreadQuery? types props entry = none := by
    rintro props (noType | filled) isSpread
    · rw [spreadQuery?, isSpread, noType, Option.bind_none, ite_self]
    · rw [spreadQuery?, isSpread, if_pos filled]
  by_cases isSpread : entry.1 = Code.spreadProp
  · rw [noSpread only isSpread, noSpread onlySeed isSpread]
  · rw [spreadQuery?, spreadQuery?, same isSpread]

/-- The results of the queries are spread in the order of the props. -/
theorem spread_foldlM {entries : List (Text × Option PropValue)}
    (distinct : (entries.map Prod.fst).Nodup) (only : SpreadOnly types props)
    (onlySeed : SpreadOnly types seed)
    (asSeeded : ∀ entry ∈ entries, entry.1 ≠ Code.spreadProp →
      props.contains entry.1 = seed.contains entry.1)
    (ran : (entries.foldlM (addEntry node types) props).run before = .ok next after) :
    ∃ loaders, List.Forall₂ (fun query loader => after.loaders.get? query = some loader)
        (entries.filterMap (spreadQuery? types seed)) loaders ∧
      next.get? Code.spreadProp = loaders.foldl addSpread (props.get? Code.spreadProp) := by
  induction entries generalizing props before with
  | nil =>
      cases ran
      exact ⟨[], .nil, rfl⟩
  | cons entry rest ih =>
      rw [List.foldlM_cons] at ran
      obtain ⟨middle, passed, first, ran⟩ := run_bind_eq_ok.mp ran
      obtain ⟨fresh, restDistinct⟩ := List.nodup_cons.mp distinct
      obtain ⟨here, others⟩ := List.forall_mem_cons.mp asSeeded
      obtain ⟨spread, sameOpen⟩ := addEntry_spread only first
      have restSeeded : ∀ other ∈ rest, other.1 ≠ Code.spreadProp →
          middle.contains other.1 = seed.contains other.1 := by
        intro other member noSpread
        have apart : other.1 ≠ entry.1 := fun same => fresh (same ▸ List.mem_map_of_mem member)
        rw [sameOpen _ noSpread apart, others other member noSpread]
      rw [spreadQuery?_congr only onlySeed here] at spread
      obtain ⟨loaders, loaded, isLast⟩ := ih restDistinct (only.pass first) restSeeded ran
      rw [List.filterMap_cons]
      cases isQuery : spreadQuery? types seed entry with
      | none =>
          rw [isQuery] at spread
          dsimp only at spread
          exact ⟨loaders, loaded, by rw [isLast, spread]⟩
      | some query =>
          rw [isQuery] at spread
          obtain ⟨loader, inTable, spread⟩ := spread
          have moved := (Follows.foldlM (renders_addEntry node types) middle passed).of_ok ran
          refine ⟨loader :: loaders, .cons ((Renders.keeps moved).loaders inTable) loaded, ?_⟩
          rw [isLast, spread, List.foldl_cons]

/-- The queries that are spread when a node is resolved, in the order of its props. -/
def spreadQueries (env : Environment) (node : Node) (seed : Props) : List Text :=
  node.props.entries.filterMap (spreadQuery? (env.propTypes node) seed)

/-- What stands in the slot when the props of the document are resolved. -/
inductive Content (env : Environment) (node : Node) (seed : Props) (after : Tables) (slot : Text)
    (code : Code) : Code → Prop
  | kept : slot ≠ Code.spreadProp → Content env node seed after slot code code
  | spread {loaders : List Text} : slot = Code.spreadProp →
      List.Forall₂ (fun query loader => after.loaders.get? query = some loader)
        (spreadQueries env node seed) loaders →
      Content env node seed after slot code (loaders.foldl withSpread code)

theorem content_addAllAuthored (found : seed.get? slot = some code)
    (ran : (addAllAuthored env node seed).run before = .ok props after) :
    ∃ content, props.get? slot = some content ∧ Content env node seed after slot code content := by
  by_cases isSpread : slot = Code.spreadProp
  · subst isSpread
    have only : SpreadOnly (env.propTypes node) seed := .inr (contains_of_get? found)
    obtain ⟨loaders, loaded, isLast⟩ :=
      spread_foldlM node.props.distinct only only (fun _ _ _ => rfl) ran
    rw [found, foldl_addSpread] at isLast
    exact ⟨_, isLast, .spread rfl loaded⟩
  · exact ⟨code, get?_addAllAuthored isSpread found ran, .kept isSpread⟩

/-- Child content stays what it was, apart from spread attributes that are put behind it and from a
    change prop that is written over it. -/
theorem resolve_content (ran : (resolve env node seed).run before = .ok props after)
    (found : seed.get? slot = some code) :
    ∃ content, Content env node seed after slot code content ∧
      props.get? slot = some ((handler? env after node seed slot).getD content) := by
  obtain ⟨authored, middle, first, ran⟩ := run_bind_eq_ok.mp ran
  obtain ⟨content, inSlot, isContent⟩ := content_addAllAuthored found first
  unfold handler?
  split at ran
  · next noComponent =>
      cases ran
      rw [noComponent]
      exact ⟨content, isContent, inSlot⟩
  · next component isComponent =>
      rw [run_get_bind_eq_ok] at ran
      cases ran
      rw [isComponent]
      refine ⟨content, isContent, get?_addDefaults ?_⟩
      rw [get?_addCells (contains_of_get? found), inSlot, Option.or_some, Option.bind_some]

end ResolvedProps

namespace Covered

def page : Node := ⟨"page", "page", .empty, none, none, none, .page []⟩

/-- Shows the text of the field, which so has a cell. -/
def label : Node :=
  ⟨"label", "label", .ofList [("value", some (.binding "field.value"))], some "page", none, some "a",
    .element "Typography"⟩

def field : Node := ⟨"field", "field", .empty, some "page", none, some "b", .element "TextField"⟩

/-- Stands in a slot of the field that has the name of its change prop. -/
def hint : Node :=
  ⟨"hint", "hint", .empty, some "field", some "onChange", none, .element "Typography"⟩

def document : Document :=
  .ofList [("page", page), ("label", label), ("field", field), ("hint", hint)]

/-- The hint as it is rendered. -/
def content : Code :=
  ⟨.element, "<Typography variant=\x7b\x22body1\x22\x7d>\x7b\x22\x22\x7d</Typography>"⟩

def seed : Props := .ofList [("onChange", content)]

def handler : Code := .expression "(event) => setFieldValue(event.target.value)"

/-- The handler is written over the content. -/
theorem exists_resolved : ∃ env started collected props after,
    Environment.start document Catalog.builtin false page = .ok (env, started) ∧
      (Collection.collectPage env).run started = .ok () collected ∧
      (ResolvedProps.resolve env field seed).run collected = .ok props after ∧
      props.get? "onChange" = some handler := by
  have checked : Environment.collectsSuch document Catalog.builtin false page (fun env collected =>
      ((ResolvedProps.resolve env field seed).run' collected).any fun props =>
        props.get? "onChange" = some handler) = true := by decide +kernel
  obtain ⟨env, started, collected, start_ok, ran, resolved⟩ := Environment.exists_collected checked
  obtain ⟨props, after, resolves, isHandler⟩ := Compile.exists_run_of_any resolved
  exact ⟨env, started, collected, props, after, start_ok, ran, resolves,
    of_decide_eq_true isHandler⟩

end Covered

namespace ResolvedProps

theorem resolve_content_covered : ∃ env collected props after content,
    (resolve env Covered.field Covered.seed).run collected = .ok props after ∧
      Content env Covered.field Covered.seed after "onChange" Covered.content content ∧
      props.get? "onChange" =
        some ((handler? env after Covered.field Covered.seed "onChange").getD content) := by
  obtain ⟨env, _, collected, props, after, _, _, resolves, _⟩ := Covered.exists_resolved
  have found : Covered.seed.get? "onChange" = some Covered.content := rfl
  obtain ⟨content, isContent, inSlot⟩ := resolve_content resolves found
  exact ⟨env, collected, props, after, content, resolves, isContent, inSlot⟩

/-- Child content does not always win. -/
theorem content_overwritten : ¬ ∀ (document : Document) (catalog : Catalog) (editor : Bool)
    (page : Node) (env : Environment) (started collected : Tables), document.Keyed →
      page ∈ document.values → Environment.start document catalog editor page = .ok (env, started) →
      (Collection.collectPage env).run started = .ok () collected →
      ∀ node ∈ document.values, ∀ (seed props : Props) (after : Tables),
        (resolve env node seed).run collected = .ok props after →
        ∀ slot code, seed.get? slot = some code → props.get? slot = some code := by
  intro claimed
  obtain ⟨env, started, collected, props, after, start_ok, ran, resolves, overwritten⟩ :=
    Covered.exists_resolved
  have kept := claimed _ _ _ _ env started collected (by decide) List.mem_cons_self start_ok ran
    Covered.field (Table.mem_values_iff.mpr ⟨"field", rfl⟩) Covered.seed props after resolves
    "onChange" Covered.content rfl
  exact absurd (overwritten.symm.trans kept) (by decide)

end ResolvedProps

end PageCompiler
