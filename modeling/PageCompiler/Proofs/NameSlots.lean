/-
  What the names of a module stand for, and how they are taken.

  Every table that hands out names is seen here as one map from slots to names beside the list of
  names that are taken. The only change ever made to the two is that an open slot takes a fresh name
  (`NameMove`). So no two slots share a name, and every name is an identifier that is not reserved.
-/
import Mathlib.Logic.Function.Basic
import PageCompiler.Proofs.FreshName
import PageCompiler.Proofs.Started

namespace PageCompiler

/-- What a name stands for. -/
inductive NameSlot where
  | imported (source symbol : Text)
  | app
  | state (key : Text)
  | setter (key : Text)
  | loader (query : Text)
  | derived (id : Text)
deriving DecidableEq

/-- The names that are taken, and what they stand for. -/
@[ext]
structure Names where
  taken : List Text
  nameOf? : NameSlot → Option Text

namespace Names

/-- A slot takes the first free name for a suggestion. -/
def take (names : Names) (slot : NameSlot) (suggestion : Text) : Names :=
  let name := freshName names.taken suggestion
  ⟨names.taken ++ [name], Function.update names.nameOf? slot (some name)⟩

/-- Each name is taken, stands for one slot and is a proper identifier. -/
structure Own (names : Names) : Prop where
  taken : ∀ {slot name}, names.nameOf? slot = some name → name ∈ names.taken
  distinct : ∀ {slot slot' name}, names.nameOf? slot = some name →
    names.nameOf? slot' = some name → slot = slot'
  proper : ∀ name ∈ names.taken,
    Identifier.IsValid name ∧ Identifier.isReserved name = false

theorem nameOf?_take (names : Names) (slot query : NameSlot) (suggestion : Text) :
    (names.take slot suggestion).nameOf? query =
      if query = slot then some (freshName names.taken suggestion) else names.nameOf? query :=
  Function.update_apply _ _ _ _

theorem eq_take {names after : Names} {slot : NameSlot} {suggestion : Text}
    (taken : after.taken = names.taken ++ [freshName names.taken suggestion])
    (nameOf? : ∀ query, after.nameOf? query =
      if query = slot then some (freshName names.taken suggestion) else names.nameOf? query) :
    after = names.take slot suggestion := by
  refine Names.ext taken ?_
  funext query
  rw [nameOf? query, nameOf?_take]

theorem Own.take {names : Names} (own : names.Own) (slot : NameSlot) (suggestion : Text) :
    (names.take slot suggestion).Own := by
  have fresh := freshName_not_mem names.taken suggestion
  refine ⟨?_, ?_, ?_⟩
  · intro query name found
    rw [nameOf?_take] at found
    split at found
    · cases found
      exact List.mem_append_right _ (List.mem_singleton_self _)
    · exact List.mem_append_left _ (own.taken found)
  · intro query query' name found found'
    rw [nameOf?_take] at found found'
    split at found <;> split at found'
    · next same same' => exact same.trans same'.symm
    -- The new name cannot be an old one, because it is fresh.
    · cases found
      exact absurd (own.taken found') fresh
    · cases found'
      exact absurd (own.taken found) fresh
    · exact own.distinct found found'
  · intro name member
    rcases List.mem_append.mp member with old | new
    · exact own.proper name old
    · rw [List.mem_singleton] at new
      subst new
      exact ⟨isValid_freshName _ _, isReserved_freshName _ _⟩

end Names

/-- An open slot takes a name that is suggested for it. -/
inductive NameMove (suggests : NameSlot → Text → Prop) (names : Names) : Names → Prop
  | take {slot : NameSlot} {suggestion : Text} : suggests slot suggestion →
      names.nameOf? slot = none → NameMove suggests names (names.take slot suggestion)

/-- Any number of names are taken. -/
abbrev TakesNames (suggests : NameSlot → Text → Prop) : Names → Names → Prop :=
  Relation.ReflTransGen (NameMove suggests)

theorem TakesNames.own {suggests : NameSlot → Text → Prop} {before after : Names}
    (moves : TakesNames suggests before after) (own : before.Own) : after.Own := by
  induction moves with
  | refl => exact own
  | tail _ move ih =>
      cases move with
      | take _ _ => exact ih.take _ _

/-- The names in the tables. The name of the module's function stands in none of them. -/
def Tables.names (tables : Tables) (app : Option Text) : Names where
  taken := tables.scope.names
  nameOf?
    | .imported source symbol => tables.imports.localName? source symbol
    | .app => app
    | .state key => (tables.cells.get? key).map Cell.state
    | .setter key => (tables.cells.get? key).map Cell.setter
    | .loader query => tables.loaders.get? query
    | .derived id => tables.derived.get? id

namespace Tables

variable {app : Option Text}

/-- A new cell takes its two names, the state first, so the setter avoids that as well. -/
theorem names_cell (tables : Tables) (key nodeId prop stateName setterName : Text)
    (initial : Option Json) :
    let state := freshName tables.scope.names stateName
    let setter := freshName (tables.scope.names ++ [state]) setterName
    Tables.names
        { tables with
          scope := ⟨tables.scope.names ++ [state] ++ [setter]⟩
          cells := tables.cells.insert key ⟨nodeId, prop, state, setter, initial⟩ }
        app = ((tables.names app).take (.state key) stateName).take (.setter key) setterName := by
  intro state setter
  refine Names.eq_take rfl ?_
  intro query
  rw [Names.nameOf?_take]
  cases query with
  | state other =>
      by_cases same : other = key <;> simp [Tables.names, Table.get?_insert, same, state]
  | setter other =>
      by_cases same : other = key <;>
        simp [Tables.names, Names.take, Table.get?_insert, same, state, setter]
  | _ => rfl

/-- A new derived value takes its name. -/
theorem names_derived (tables : Tables) (id suggestion : Text)
    (dependencies : Table (List Text)) :
    let identifier := freshName tables.scope.names suggestion
    Tables.names
        { tables with
          scope := ⟨tables.scope.names ++ [identifier]⟩
          derived := tables.derived.insert id identifier
          dependencies }
        app = (tables.names app).take (.derived id) suggestion := by
  refine Names.eq_take rfl ?_
  intro query
  cases query with
  | derived other => simp [Tables.names, Table.get?_insert]
  | _ => rfl

/-- A new import takes its name. -/
theorem names_enter (tables : Tables) (source symbol suggestion : Text) :
    Tables.names
        { tables with
          scope := ⟨tables.scope.names ++ [freshName tables.scope.names suggestion]⟩
          imports := tables.imports.enter source symbol (freshName tables.scope.names suggestion) }
        app = (tables.names app).take (.imported source symbol) suggestion := by
  refine Names.eq_take rfl ?_
  intro query
  cases query with
  | imported otherSource otherSymbol => simp [Tables.names, ImportTable.localName?_enter]
  | _ => rfl

/-- A new data loader takes its name. -/
theorem names_load (tables : Tables) (query : Text) :
    Tables.names
        { tables with
          scope := ⟨tables.scope.names ++ [freshName tables.scope.names query]⟩
          loaders := tables.loaders.insert query (freshName tables.scope.names query) }
        app = (tables.names app).take (.loader query) query := by
  refine Names.eq_take rfl ?_
  intro slot
  cases slot with
  | loader other => simp [Tables.names, Table.get?_insert]
  | _ => rfl

/-- The function of the module takes its name. -/
theorem names_app (tables : Tables) :
    Tables.names
        { tables with scope := ⟨tables.scope.names ++ [freshName tables.scope.names "App"]⟩ }
        (some (freshName tables.scope.names "App")) = (tables.names none).take .app "App" := by
  refine Names.eq_take rfl ?_
  intro query
  cases query <;> rfl

end Tables

namespace Environment

/-- The names that the references of reached nodes suggest. -/
inductive Suggests (env : Environment) : NameSlot → Text → Prop
  | state {reference prop : Text} {element : Node} :
      env.Needs reference element → element.isElement = true →
      prop = (Reference.path reference).headD [] →
      Suggests env (.state (cellKey element.id prop)) (Identifier.camelCase [element.name, prop])
  | setter {reference prop : Text} {element : Node} :
      env.Needs reference element → element.isElement = true →
      prop = (Reference.path reference).headD [] →
      Suggests env (.setter (cellKey element.id prop))
        (Identifier.camelCase ["set", element.name, prop])
  | derived {reference : Text} {target : Node} :
      env.Needs reference target → target.isDerived = true →
      Suggests env (.derived target.id) target.name

variable {env : Environment} {before after : Tables} {app : Option Text}

theorem CollectMove.takesNames (move : env.CollectMove before after) :
    TakesNames env.Suggests (before.names app) (after.names app) := by
  cases move with
  | warn _ => exact .refl
  | @cell reference prop state setter element argument needs isElement isProp _ absent isState
      isSetter =>
      have absent : before.cells.get? (cellKey element.id prop) = none := absent
      have isOpen : (before.names app).nameOf? (.state (cellKey element.id prop)) = none := by
        simp [Tables.names, absent]
      have first := NameMove.take (Suggests.state needs isElement isProp) isOpen
      have stillOpen : ((before.names app).take (.state (cellKey element.id prop))
          (Identifier.camelCase [element.name, prop])).nameOf?
            (.setter (cellKey element.id prop)) = none := by
        rw [Names.nameOf?_take, if_neg (by simp)]
        simp [Tables.names, absent]
      subst isState isSetter
      rw [before.names_cell]
      exact .tail (.single first) (.take (.setter needs isElement isProp) stillOpen)
  | @derived reference identifier target needs isDerived absent isIdentifier =>
      subst isIdentifier
      rw [before.names_derived]
      exact .single (.take (.derived needs isDerived) absent)
  | dependency _ _ => exact .refl
  | accessor _ _ => exact .refl

theorem Collects.takesNames (moves : env.Collects before after) :
    TakesNames env.Suggests (before.names app) (after.names app) := by
  induction moves with
  | refl => exact .refl
  | tail _ move ih => exact ih.trans move.takesNames

end Environment

variable {before after : Tables} {app : Option Text}

theorem RenderMove.takesNames (move : RenderMove before after) :
    TakesNames (fun _ _ => True) (before.names app) (after.names app) := by
  cases move with
  | warn _ => exact .refl
  | enter absent isName =>
      subst isName
      rw [before.names_enter]
      exact .single (.take trivial absent)
  | load absent isName =>
      subst isName
      rw [before.names_load]
      exact .single (.take trivial absent)

theorem Renders.takesNames (moves : Renders before after) :
    TakesNames (fun _ _ => True) (before.names app) (after.names app) := by
  induction moves with
  | refl => exact .refl
  | tail _ move ih => exact ih.trans move.takesNames

/-- At the start every name has its slot. -/
theorem Environment.Started.own {env : Environment} {tables : Tables} (started : env.Started tables) :
    (tables.names (some env.appName)).Own := by
  obtain ⟨middle, renders, isApp, rfl⟩ := started.named
  have empty : (Tables.empty.names none).Own := by
    refine ⟨?_, ?_, ?_⟩
    · intro slot name found
      cases slot <;> cases found
    · intro slot slot' name found
      cases slot <;> cases found
    · intro name member
      cases member
  have entered : (middle.names none).Own := renders.takesNames.own empty
  rw [isApp, middle.names_app]
  exact entered.take .app "App"

end PageCompiler
