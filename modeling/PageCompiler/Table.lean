/-
  Tables: maps with text keys that remember the order in which keys were first put in.

  Writing to a key that is present changes its value in place; a new key goes to the end. The
  laws below say what each operation does to look-up and to the list of keys.
-/
import PageCompiler.Text.Basic

namespace PageCompiler

/-- Replaces the value of `key`, or puts the pair at the end. -/
def upsert {α : Type} (key : Text) (value : α) : List (Text × α) → List (Text × α)
  | [] => [(key, value)]
  | (name, old) :: rest =>
      if name = key then (name, value) :: rest else (name, old) :: upsert key value rest

theorem keys_upsert {α : Type} (key : Text) (value : α) (entries : List (Text × α)) :
    (upsert key value entries).map Prod.fst =
      if key ∈ entries.map Prod.fst then entries.map Prod.fst
      else entries.map Prod.fst ++ [key] := by
  induction entries with
  | nil => simp [upsert]
  | cons entry rest ih =>
      obtain ⟨name, old⟩ := entry
      by_cases same : name = key
      · simp [upsert, same]
      · have differs : key ≠ name := fun equal => same equal.symm
        simp only [upsert, same, if_false, List.map_cons, ih, List.mem_cons, differs, false_or]
        split <;> simp

theorem lookup_cons {α : Type} (query name : Text) (value : α) (rest : List (Text × α)) :
    ((name, value) :: rest).lookup query =
      if query = name then some value else rest.lookup query := by
  rw [List.lookup_cons]
  by_cases hit : query = name
  · simp [hit]
  · simp [hit, beq_false_of_ne hit]

theorem lookup_upsert {α : Type} (key query : Text) (value : α)
    (entries : List (Text × α)) :
    (upsert key value entries).lookup query =
      if query = key then some value else entries.lookup query := by
  induction entries with
  | nil => rw [upsert, lookup_cons]
  | cons entry rest ih =>
      obtain ⟨name, old⟩ := entry
      by_cases same : name = key
      · subst same
        by_cases hit : query = name <;> simp [upsert, lookup_cons, hit]
      · simp only [upsert, same, if_false, lookup_cons, ih]
        by_cases hit : query = name
        · subst hit; simp [same]
        · simp [hit]

theorem nodup_keys_upsert {α : Type} {entries : List (Text × α)} (key : Text) (value : α)
    (distinct : (entries.map Prod.fst).Nodup) :
    ((upsert key value entries).map Prod.fst).Nodup := by
  rw [keys_upsert]
  split
  · exact distinct
  · next absent =>
      refine List.nodup_append.mpr ⟨distinct, by simp, ?_⟩
      intro name present other single equal
      rw [List.mem_singleton] at single
      exact absent (single ▸ equal ▸ present)

/-- The last value that stands under `key`. -/
def last? {α : Type} (key : Text) : List (Text × α) → Option α
  | [] => none
  | (name, value) :: rest => (last? key rest).or (if key = name then some value else none)

/-- Writes the pairs one after the other to `kept`. -/
def upsertAll {α : Type} (kept pairs : List (Text × α)) : List (Text × α) :=
  pairs.foldl (fun kept pair => upsert pair.1 pair.2 kept) kept

theorem lookup_upsertAll {α : Type} (query : Text) (kept pairs : List (Text × α)) :
    (upsertAll kept pairs).lookup query = (last? query pairs).or (kept.lookup query) := by
  induction pairs generalizing kept with
  | nil => simp [upsertAll, last?]
  | cons pair rest ih =>
      obtain ⟨name, value⟩ := pair
      have step : upsertAll kept ((name, value) :: rest)
          = upsertAll (upsert name value kept) rest := rfl
      rw [step, ih, lookup_upsert, last?]
      by_cases hit : query = name <;> cases last? query rest <;> simp [hit]

theorem nodup_keys_upsertAll {α : Type} {kept : List (Text × α)} (pairs : List (Text × α))
    (distinct : (kept.map Prod.fst).Nodup) : ((upsertAll kept pairs).map Prod.fst).Nodup := by
  induction pairs generalizing kept with
  | nil => exact distinct
  | cons pair rest ih => exact ih (nodup_keys_upsert pair.1 pair.2 distinct)

/-- A map from text to `α` whose keys are distinct and ordered by first insertion. -/
structure Table (α : Type) where
  entries : List (Text × α)
  distinct : (entries.map Prod.fst).Nodup
deriving DecidableEq

namespace Table

variable {α β : Type}

def empty : Table α := ⟨[], by simp⟩

instance : EmptyCollection (Table α) := ⟨empty⟩

instance : Inhabited (Table α) := ⟨empty⟩

def keys (table : Table α) : List Text := table.entries.map Prod.fst

def values (table : Table α) : List α := table.entries.map Prod.snd

def get? (table : Table α) (key : Text) : Option α := table.entries.lookup key

def contains (table : Table α) (key : Text) : Bool := (table.get? key).isSome

def size (table : Table α) : Nat := table.entries.length

def insert (table : Table α) (key : Text) (value : α) : Table α :=
  ⟨upsert key value table.entries, nodup_keys_upsert key value table.distinct⟩

/-- Writes the pairs one after the other, so a repeated key keeps its first place and its last
    value. -/
def ofList (pairs : List (Text × α)) : Table α :=
  ⟨upsertAll [] pairs, nodup_keys_upsertAll pairs (by simp)⟩

def erase (table : Table α) (key : Text) : Table α :=
  ⟨table.entries.filter (·.1 ≠ key),
    List.Nodup.sublist (List.Sublist.map _ List.filter_sublist) table.distinct⟩

def map (f : α → β) (table : Table α) : Table β :=
  ⟨table.entries.map fun entry => (entry.1, f entry.2), by
    simpa [Function.comp_def] using table.distinct⟩

@[simp] theorem get?_empty (key : Text) : (empty : Table α).get? key = none := rfl

theorem get?_insert (table : Table α) (key query : Text) (value : α) :
    (table.insert key value).get? query =
      if query = key then some value else table.get? query :=
  lookup_upsert key query value table.entries

theorem keys_insert (table : Table α) (key : Text) (value : α) :
    (table.insert key value).keys =
      if key ∈ table.keys then table.keys else table.keys ++ [key] :=
  keys_upsert key value table.entries

theorem get?_ofList (pairs : List (Text × α)) (query : Text) :
    (ofList pairs).get? query = last? query pairs := by
  simp [get?, ofList, lookup_upsertAll]

end Table

end PageCompiler
