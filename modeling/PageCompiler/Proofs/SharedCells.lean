/-
  Which props share a cell.

  A cell stands under its node's id and its prop, joined by a dot, and both may hold dots themselves. So
  a cell is shared by the requests whose id and prop are joined to one text, wherever the text is divided
  (`SharesKey`). A request is given the cell that stands under its key, whoever asked first. The names of
  a new cell are fresh, so no two keys have equal cells.

  The props that references name hold no dot. A cell that was collected is read for another prop only if
  the name of an argument holds one, and `foreign_cell_read` is a page where it does.
-/
import PageCompiler.Proofs.NameSlots
import PageCompiler.Proofs.PageRun

namespace PageCompiler

open Collection Compile

/-- The front of a prop and the dot after it stand at the end of the id. -/
def Shifted (id prop id' prop' : Text) : Prop :=
  ∃ middle, id' = cellKey id middle ∧ prop = cellKey middle prop'

/-- Joined by a dot, both pairs give one text. -/
def SharesKey (id prop id' prop' : Text) : Prop :=
  id = id' ∧ prop = prop' ∨ Shifted id prop id' prop' ∨ Shifted id' prop' id prop

theorem cellKey_eq (id prop : Text) : cellKey id prop = id ++ CodePoint.char '.' :: prop := by
  simp [cellKey, Text.ofString, Text.ofChars]

theorem cellKey_eq_iff {id prop id' prop' : Text} :
    cellKey id prop = cellKey id' prop' ↔ SharesKey id prop id' prop' := by
  constructor
  · intro same
    rw [cellKey_eq, cellKey_eq] at same
    rcases List.append_eq_append_iff.mp same with ⟨middle, left, right⟩ | ⟨middle, left, right⟩
    · cases middle with
      | nil =>
          cases right
          exact .inl ⟨by simpa using left.symm, rfl⟩
      | cons point middle =>
          cases right
          exact .inr (.inl ⟨middle, by rw [left, cellKey_eq], (cellKey_eq _ _).symm⟩)
    · cases middle with
      | nil =>
          cases right
          exact .inl ⟨by simpa using left, rfl⟩
      | cons point middle =>
          cases right
          exact .inr (.inr ⟨middle, by rw [left, cellKey_eq], (cellKey_eq _ _).symm⟩)
  · rintro (⟨rfl, rfl⟩ | ⟨middle, rfl, rfl⟩ | ⟨middle, rfl, rfl⟩)
    · rfl
    · simp [cellKey_eq]
    · simp [cellKey_eq]

/-- What is given to ask for a cell. -/
structure CellRequest where
  nodeId : Text
  nodeName : Text
  prop : Text
  argument : Argument
  constant : Option Json

namespace CellRequest

def key (request : CellRequest) : Text := cellKey request.nodeId request.prop

def add (request : CellRequest) : Compile Cell :=
  addCell request.nodeId request.nodeName request.prop request.argument request.constant

end CellRequest

/-- The cell is that of the request's prop and starts from its value. -/
structure Cell.MadeFor (cell : Cell) (request : CellRequest) : Prop where
  nodeId : cell.nodeId = request.nodeId
  prop : cell.prop = request.prop
  initial : cell.initial = request.constant.or request.argument.defaultValue

/-- The request that came first for a key. -/
def firstFor? (requests : List CellRequest) (key : Text) : Option CellRequest :=
  requests.find? fun request => request.key = key

theorem firstFor?_concat (requests : List CellRequest) (request : CellRequest) (key : Text) :
    firstFor? (requests ++ [request]) key =
      (firstFor? requests key).or (if request.key = key then some request else none) := by
  rw [firstFor?, List.find?_append, firstFor?, List.find?_singleton]
  simp

/-- The tables hold the cells of the requests, each made for the first one with its key. -/
structure Serves (tables : Tables) (requests : List CellRequest) (app : Option Text) : Prop where
  own : (tables.names app).Own
  made : ∀ {key cell}, tables.cells.get? key = some cell →
    ∃ request, firstFor? requests key = some request ∧ cell.MadeFor request
  all : ∀ {key}, tables.cells.get? key = none → firstFor? requests key = none

namespace Serves

variable {tables before : Tables} {requests earlier : List CellRequest} {app : Option Text}

/-- Cells that stand under different keys have different names. -/
theorem key_eq (serves : Serves tables requests app) {key key' : Text} {cell : Cell}
    (found : tables.cells.get? key = some cell) (found' : tables.cells.get? key' = some cell) :
    key = key' := by
  have named : (tables.names app).nameOf? (.state key) = some cell.state := by
    simp [Tables.names, found]
  have named' : (tables.names app).nameOf? (.state key') = some cell.state := by
    simp [Tables.names, found']
  exact NameSlot.state.inj (serves.own.distinct named named')

/-- A request whose key has a cell changes nothing. -/
theorem again (serves : Serves tables requests app) {request : CellRequest} {cell : Cell}
    (known : tables.cells.get? request.key = some cell) :
    Serves tables (requests ++ [request]) app := by
  refine ⟨serves.own, fun {key other} found => ?_, fun {key} absent => ?_⟩
  · obtain ⟨first, isFirst, made⟩ := serves.made found
    exact ⟨first, by rw [firstFor?_concat, isFirst, Option.some_or], made⟩
  · have differs : ¬ request.key = key := by
      rintro rfl
      rw [known] at absent
      cases absent
    rw [firstFor?_concat, serves.all absent, if_neg differs]
    rfl

/-- A request whose key has no cell is the first one with that key. -/
theorem enter (serves : Serves tables requests app) {request : CellRequest} {cell : Cell}
    {scope : Scope} (absent : tables.cells.get? request.key = none) (made : cell.MadeFor request)
    (own : (Tables.names { tables with
      scope, cells := tables.cells.insert request.key cell } app).Own) :
    Serves { tables with scope, cells := tables.cells.insert request.key cell }
      (requests ++ [request]) app := by
  refine ⟨own, fun {key other} found => ?_, fun {key} missing => ?_⟩
  · rw [Table.get?_insert] at found
    split at found
    · next same =>
        subst same
        cases found
        exact ⟨request, by rw [firstFor?_concat, serves.all absent, if_pos rfl, Option.none_or], made⟩
    · obtain ⟨first, isFirst, madeFirst⟩ := serves.made found
      exact ⟨first, by rw [firstFor?_concat, isFirst, Option.some_or], madeFirst⟩
  · rw [Table.get?_insert] at missing
    split at missing
    · cases missing
    · next differs =>
        rw [firstFor?_concat, serves.all missing, if_neg (Ne.symm differs)]
        rfl

/-- A request is given the cell under its key, and only a key without a cell gets a new one. -/
theorem ends_add (serves : Serves before earlier app) (request : CellRequest) :
    request.add.Ends before (fun cell after => Serves after (earlier ++ [request]) app ∧
      before.Extends after ∧ after.cells.get? request.key = some cell) fun _ => False := by
  cases known : before.cell? request.nodeId request.prop with
  | some cell =>
      rw [CellRequest.add, addCell, ends_bind, ends_get, known]
      exact ⟨serves.again known, .refl before, known⟩
  | none =>
      have absent : before.cells.get? request.key = none := known
      rw [CellRequest.add, ends_addCell_of_absent known]
      refine ⟨serves.enter absent ⟨rfl, rfl, rfl⟩ ?_, ⟨?_, id, id⟩, Table.get?_insert_self _ _ _⟩
      · rw [CellRequest.key, before.names_cell]
        exact (serves.own.take _ _).take _ _
      · exact fun found => Table.get?_insert_of_some _ absent found

/-- The requests of a run are all given cells, and none of these is ever replaced. -/
theorem ends_run (serves : Serves before earlier app) (requests : List CellRequest) :
    (requests.mapM CellRequest.add).Ends before (fun cells after =>
      Serves after (earlier ++ requests) app ∧ before.Extends after ∧
        List.Forall₂ (fun request cell => after.cells.get? request.key = some cell) requests cells)
      fun _ => False := by
  induction requests generalizing before earlier with
  | nil =>
      rw [List.mapM_nil, ends_pure, List.append_nil]
      exact ⟨serves, .refl before, .nil⟩
  | cons request requests ih =>
      rw [List.mapM_cons, ends_bind]
      refine (serves.ends_add request).imp ?_ fun _ failed => failed
      rintro cell middle ⟨served, extended, found⟩
      rw [ends_bind]
      refine (ih served).imp ?_ fun _ failed => failed
      rintro cells after ⟨servedAll, extendedAll, given⟩
      rw [List.append_assoc] at servedAll
      exact ⟨servedAll, extended.trans extendedAll, .cons (extendedAll.cells found) given⟩

end Serves

theorem Environment.Started.serves {env : Environment} {started : Tables}
    (start : env.Started started) : Serves started [] (some env.appName) := by
  refine ⟨start.own, fun {key cell} found => ?_, fun _ => rfl⟩
  rw [start.sameCollected.cells] at found
  cases found

/-- Two requests are given the same cell exactly if their ids and props are joined to one text, and it
    is the cell of the first request for that text. A cell that was collected is read for another prop
    only if the name of that prop ends in a dot and the cell's prop. -/
theorem cell_shared_iff {document : Document} {page : Node} {catalog : Catalog} {editor : Bool}
    {env : Environment} {started : Tables} (keyed : document.Keyed) (member : page ∈ document.values)
    (start_ok : Environment.start document catalog editor page = .ok (env, started)) :
    (∀ requests : List CellRequest, ∃ cells after,
      (requests.mapM CellRequest.add).run started = .ok cells after ∧
      cells.length = requests.length ∧
      (∀ answer ∈ requests.zip cells, ∀ other ∈ requests.zip cells, answer.2 = other.2 ↔
        SharesKey answer.1.nodeId answer.1.prop other.1.nodeId other.1.prop) ∧
      ∀ id prop, match firstFor? requests (cellKey id prop) with
        | none => after.cell? id prop = none
        | some first => ∃ cell, after.cell? id prop = some cell ∧ cell.MadeFor first) ∧
    ∀ collected tables id name cell, (collectPage env).run started = .ok () collected →
      Renders collected tables → tables.cell? id name = some cell →
        cell.nodeId = id ∧ cell.prop = name ∨ Shifted id name cell.nodeId cell.prop := by
  have start := Environment.started_of_start start_ok
  constructor
  · intro requests
    have ends := start.serves.ends_run requests
    obtain ⟨cells, after, ran⟩ := ends.exists_ok fun _ failed => failed
    obtain ⟨serves, _, given⟩ := ends.of_ok ran
    refine ⟨cells, after, ran, given.length_eq.symm, ?_, ?_⟩
    · intro answer inside other inside'
      have found := List.forall₂_iff_zip.mp given |>.2 inside
      have found' := List.forall₂_iff_zip.mp given |>.2 inside'
      rw [← cellKey_eq_iff]
      constructor
      · intro same
        exact serves.key_eq found (same ▸ found')
      · intro same
        exact Option.some.inj (found.symm.trans ((congrArg after.cells.get? same).trans found'))
    · intro id prop
      cases first : firstFor? requests (cellKey id prop) with
      | none =>
          refine Option.eq_none_iff_forall_ne_some.mpr fun cell found => ?_
          obtain ⟨request, isFirst, _⟩ := serves.made found
          cases first.symm.trans isFirst
      | some request =>
          obtain ⟨cell, found⟩ := Option.ne_none_iff_exists'.mp fun absent =>
            nomatch first.symm.trans (serves.all absent)
          obtain ⟨other, isFirst, made⟩ := serves.made found
          cases first.symm.trans isFirst
          exact ⟨cell, found, made⟩
  · intro collected tables id name cell ran renders found
    have completed := start.completed (Environment.consistent_of_start keyed member start_ok) ran
    rw [Tables.cell?, renders.sameCollected.cells] at found
    have justified := completed.collects.justified start.justified
    obtain ⟨reference, _, _, _, _, isProp, _, _, isKey, _⟩ := justified.cells found
    rcases cellKey_eq_iff.mp isKey with ⟨sameId, sameProp⟩ | shifted | ⟨middle, _, dotted⟩
    · exact .inl ⟨sameId.symm, sameProp.symm⟩
    · exact .inr shifted
    -- The prop of the cell would end in the name and a dot before it.
    · refine absurd ?_ (Reference.dot_not_mem_prop reference)
      rw [← isProp, dotted, cellKey_eq]
      exact List.mem_append_right _ List.mem_cons_self

namespace Panel

def page : Node := ⟨"page", "page", .empty, none, none, none, .page []⟩

/-- Shows the text of the field. One of its arguments has a dot in its name. -/
def panel : Node :=
  ⟨"a", "panel", .ofList [("title", some (.binding "field.c"))], some "page", none, some "a",
    .element "Panel"⟩

def field : Node := ⟨"a.b", "field", .empty, some "page", none, some "b", .element "Field"⟩

def document : Document := .ofList [("page", page), ("a", panel), ("a.b", field)]

def controlled (value : Json) : Argument :=
  { Component.plain "string" with defaultValue := some value, changeProp := some "onChange" }

def component : Component :=
  .declare [] [("title", Component.plain "string"), ("b.c", controlled (.str "own"))]
    fun _ => .done []

def catalog : Catalog := .ofList [
  ("Panel", component),
  ("Field", .declare [] [("c", controlled (.str "typed"))] fun _ => .done [])]

def panelRequest : CellRequest := ⟨"a", "panel", "b.c", controlled (.str "own"), none⟩

def fieldRequest : CellRequest := ⟨"a.b", "field", "c", controlled (.str "typed"), none⟩

/-- The panel finds the cell of the field. -/
theorem exists_collected : ∃ env started collected cell,
    Environment.start document catalog false page = .ok (env, started) ∧
      (collectPage env).run started = .ok () collected ∧
      collected.cell? "a" "b.c" = some cell ∧ cell.nodeId = "a.b" := by
  have checked : Environment.collectsSuch document catalog false page (fun _ collected =>
      (collected.cell? "a" "b.c").map Cell.nodeId = some "a.b") = true := by decide +kernel
  obtain ⟨env, started, collected, start_ok, ran, owned⟩ := Environment.exists_collected checked
  obtain ⟨cell, found, isOther⟩ := Option.map_eq_some_iff.mp (of_decide_eq_true owned)
  exact ⟨env, started, collected, cell, start_ok, ran, found, isOther⟩

end Panel

theorem cell_shared_iff_panel : ∃ env started cell after,
    Environment.start Panel.document Panel.catalog false Panel.page = .ok (env, started) ∧
      ([Panel.panelRequest, Panel.fieldRequest].mapM CellRequest.add).run started =
        .ok [cell, cell] after := by
  obtain ⟨env, started, start_ok⟩ :=
    Environment.exists_start Panel.document Panel.catalog false Panel.page
  obtain ⟨cells, after, ran, size, shared, _⟩ :=
    (cell_shared_iff (by decide) List.mem_cons_self start_ok).1 [Panel.panelRequest, Panel.fieldRequest]
  match cells, size with
  | [first, second], _ =>
      have shifted : Shifted "a" "b.c" "a.b" "c" := ⟨"b", rfl, rfl⟩
      have same := (shared (Panel.panelRequest, first) (by simp) (Panel.fieldRequest, second)
        (by simp)).mpr (.inr (.inl shifted))
      obtain rfl : first = second := same
      exact ⟨env, started, first, after, start_ok, ran⟩

/-- An argument of one element can read the cell of another. -/
theorem foreign_cell_read : ¬ ∀ (document : Document) (catalog : Catalog) (editor : Bool)
    (page : Node) (env : Environment) (started collected : Tables), document.Keyed →
      page ∈ document.values → Environment.start document catalog editor page = .ok (env, started) →
      (collectPage env).run started = .ok () collected →
      ∀ node ∈ document.values, ∀ component, env.component? node = some component →
        ∀ name ∈ component.arguments.keys, ∀ cell, collected.cell? node.id name = some cell →
          cell.nodeId = node.id ∧ cell.prop = name := by
  intro claimed
  obtain ⟨env, started, collected, cell, start_ok, ran, found, isOther⟩ := Panel.exists_collected
  have rendered : env.component? Panel.panel = some Panel.component := by
    rw [Environment.component?, (Environment.start_given start_ok).2.2.1]
    rfl
  have own := claimed _ _ _ _ env started collected (by decide) List.mem_cons_self start_ok ran
    Panel.panel (Table.mem_values_iff.mpr ⟨"a", rfl⟩) Panel.component rendered "b.c" (by decide) cell
    found
  exact absurd (isOther.symm.trans own.1) (by decide)

end PageCompiler
