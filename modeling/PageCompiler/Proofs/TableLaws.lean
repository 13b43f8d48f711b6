/-
  Tables as sets of pairs. Keys are distinct, so looking a key up and finding its pair are the same,
  and a new key adds one pair at the end. So keys come in the order of a list without its repetitions.
-/
import Mathlib.Data.List.Basic
import PageCompiler.Table

namespace PageCompiler

theorem nodup_eraseDups {α : Type} [BEq α] [LawfulBEq α] : ∀ items : List α, items.eraseDups.Nodup
  | [] => List.nodup_nil
  | item :: rest => by
      rw [List.eraseDups_cons, List.nodup_cons, List.mem_eraseDups]
      exact ⟨by simp, nodup_eraseDups (rest.filter fun other => !other == item)⟩
termination_by items => items.length
decreasing_by exact Nat.lt_succ_of_le (List.length_filter_le _ _)

theorem eraseDups_concat {α : Type} [BEq α] [LawfulBEq α] (items : List α) (item : α) :
    (items ++ [item]).eraseDups =
      if item ∈ items then items.eraseDups else items.eraseDups ++ [item] := by
  rw [List.eraseDups_append]
  by_cases member : item ∈ items
  · simp [member, List.removeAll]
  · simp [member, List.removeAll, List.eraseDups_cons]

theorem lookup_eq_some_iff {α : Type} {entries : List (Text × α)} {key : Text} {value : α}
    (distinct : (entries.map Prod.fst).Nodup) :
    entries.lookup key = some value ↔ (key, value) ∈ entries := by
  induction entries with
  | nil => simp
  | cons entry rest ih =>
      obtain ⟨name, stored⟩ := entry
      rw [List.map_cons, List.nodup_cons] at distinct
      rw [lookup_cons, List.mem_cons, Prod.mk.injEq]
      by_cases hit : key = name
      · subst hit
        have notBelow : (key, value) ∉ rest :=
          fun below => distinct.1 (List.mem_map.mpr ⟨(key, value), below, rfl⟩)
        simp [notBelow, eq_comm]
      · simp [hit, ih distinct.2]

theorem lookup_eq_none_of_not_mem {α : Type} {entries : List (Text × α)} {key : Text}
    (absent : key ∉ entries.map Prod.fst) : entries.lookup key = none := by
  refine List.lookup_eq_none_iff.mpr fun entry member => ?_
  rw [bne_iff_ne]
  rintro rfl
  exact absent (List.mem_map_of_mem member)

theorem upsert_of_not_mem {α : Type} {entries : List (Text × α)} {key : Text} (value : α)
    (absent : key ∉ entries.map Prod.fst) : upsert key value entries = entries ++ [(key, value)] := by
  induction entries with
  | nil => rfl
  | cons entry rest ih =>
      obtain ⟨name, stored⟩ := entry
      rw [List.map_cons, List.mem_cons, not_or] at absent
      have differs : ¬ name = key := fun same => absent.1 same.symm
      simp [upsert, differs, ih absent.2]

namespace Table

variable {α : Type} {table : Table α} {key : Text} {value : α}

theorem mem_entries_iff : (key, value) ∈ table.entries ↔ table.get? key = some value :=
  (lookup_eq_some_iff table.distinct).symm

theorem mem_keys_iff : key ∈ table.keys ↔ ∃ value, table.get? key = some value := by
  constructor
  · intro member
    obtain ⟨⟨name, value⟩, inside, rfl⟩ := List.mem_map.mp member
    exact ⟨value, mem_entries_iff.mp inside⟩
  · rintro ⟨value, found⟩
    exact List.mem_map_of_mem (mem_entries_iff.mpr found)

theorem get?_eq_none_iff : table.get? key = none ↔ key ∉ table.keys := by
  rw [mem_keys_iff, ← Option.isSome_iff_exists]
  simp

theorem mem_values_iff : value ∈ table.values ↔ ∃ key, table.get? key = some value := by
  constructor
  · intro member
    obtain ⟨⟨name, value⟩, inside, rfl⟩ := List.mem_map.mp member
    exact ⟨name, mem_entries_iff.mp inside⟩
  · rintro ⟨key, found⟩
    exact List.mem_map_of_mem (mem_entries_iff.mpr found)

theorem filterMap_get?_keys (table : Table α) : table.keys.filterMap table.get? = table.values := by
  rw [keys, values, List.filterMap_map, ← List.filterMap_eq_map]
  refine List.filterMap_congr ?_
  rintro ⟨key, value⟩ member
  exact mem_entries_iff.mp member

theorem entries_eq_map_keys (table : Table α) (absent : α) :
    table.entries = table.keys.map fun key => (key, (table.get? key).getD absent) := by
  unfold keys
  rw [List.map_map]
  conv_lhs => rw [← List.map_id table.entries]
  refine List.map_congr_left ?_
  rintro ⟨key, value⟩ member
  simp [mem_entries_iff.mp member]

/-- A key has at most one entry. -/
theorem filter_entries_key (table : Table α) (key : Text) :
    table.entries.filter (fun entry => decide (entry.1 = key)) =
      (table.get? key).toList.map (key, ·) := by
  obtain ⟨entries, distinct⟩ := table
  unfold get?
  induction entries with
  | nil => rfl
  | cons entry rest ih =>
      obtain ⟨name, value⟩ := entry
      rw [List.map_cons, List.nodup_cons] at distinct
      have below := ih distinct.2
      rw [lookup_cons]
      by_cases same : name = key
      · subst same
        rw [lookup_eq_none_of_not_mem distinct.1] at below
        rw [List.filter_cons_of_pos (by simp), below, if_pos rfl]
        rfl
      · rw [List.filter_cons_of_neg (by simpa using same), below, if_neg (Ne.symm same)]

theorem entries_insert_of_absent (value : α) (absent : table.get? key = none) :
    (table.insert key value).entries = table.entries ++ [(key, value)] :=
  upsert_of_not_mem value (get?_eq_none_iff.mp absent)

theorem size_insert_of_absent (value : α) (absent : table.get? key = none) :
    (table.insert key value).size = table.size + 1 := by
  simp [size, entries_insert_of_absent value absent]

theorem get?_insert_of_ne {query : Text} (value : α) (differs : query ≠ key) :
    (table.insert key value).get? query = table.get? query := by
  rw [get?_insert, if_neg differs]

@[simp] theorem get?_insert_self (table : Table α) (key : Text) (value : α) :
    (table.insert key value).get? key = some value := by
  rw [get?_insert, if_pos rfl]

/-- A value that is in the table stays under its key while new keys come in. -/
theorem get?_insert_of_some {query : Text} {stored : α} (value : α)
    (absent : table.get? key = none) (found : table.get? query = some stored) :
    (table.insert key value).get? query = some stored := by
  have differs : query ≠ key := by
    rintro rfl
    rw [absent] at found
    cases found
  rw [get?_insert_of_ne value differs, found]

theorem mem_of_get?_ofList {pairs : List (Text × α)} (found : (ofList pairs).get? key = some value) :
    (key, value) ∈ pairs := by
  rw [get?_ofList] at found
  induction pairs with
  | nil => cases found
  | cons pair rest ih =>
      obtain ⟨name, stored⟩ := pair
      rw [last?, Option.or_eq_some_iff] at found
      rcases found with later | ⟨_, here⟩
      · exact List.mem_cons_of_mem _ (ih later)
      · split at here
        · next same =>
            cases here
            subst same
            exact List.mem_cons_self
        · cases here

theorem exists_get?_ofList {pairs : List (Text × α)} (member : (key, value) ∈ pairs) :
    ∃ stored, (ofList pairs).get? key = some stored := by
  rw [get?_ofList]
  induction pairs with
  | nil => cases member
  | cons pair rest ih =>
      rw [last?]
      rcases List.mem_cons.mp member with rfl | later
      · cases last? key rest with
        | none => exact ⟨value, if_pos rfl⟩
        | some stored => exact ⟨stored, rfl⟩
      · obtain ⟨stored, found⟩ := ih later
        exact ⟨stored, by rw [found, Option.some_or]⟩

theorem get?_map {β : Type} (f : α → β) (table : Table α) (key : Text) :
    (table.map f).get? key = (table.get? key).map f := by
  change (table.entries.map fun entry => (entry.1, f entry.2)).lookup key =
    (table.entries.lookup key).map f
  induction table.entries with
  | nil => rfl
  | cons entry rest ih =>
      obtain ⟨name, stored⟩ := entry
      rw [List.map_cons, lookup_cons, lookup_cons, ih]
      split <;> rfl

theorem keys_map {β : Type} (f : α → β) (table : Table α) : (table.map f).keys = table.keys := by
  simp [keys, map, Function.comp_def]

theorem values_map {β : Type} (f : α → β) (table : Table α) :
    (table.map f).values = table.values.map f := by
  simp [values, map, Function.comp_def]

theorem contains_insert (table : Table α) (key query : Text) (value : α) :
    (table.insert key value).contains query = (query == key || table.contains query) := by
  unfold contains
  rw [get?_insert]
  by_cases same : query = key <;> simp [same]

/-- Tables with the same keys in the same order and the same values under them are the same. -/
theorem eq_of_get? {table table' : Table α} (sameKeys : table'.keys = table.keys)
    (same : ∀ key, table'.get? key = table.get? key) : table' = table := by
  have pairs : ∀ table : Table α,
      table.keys.filterMap (fun key => (table.get? key).map (key, ·)) = table.entries := by
    intro table
    rw [keys, List.filterMap_map]
    conv_rhs => rw [← List.filterMap_some (l := table.entries)]
    refine List.filterMap_congr ?_
    rintro ⟨key, value⟩ member
    simp [mem_entries_iff.mp member]
  have entries : table'.entries = table.entries := by
    rw [← pairs table', ← pairs table, sameKeys, funext same]
  cases table
  cases table'
  cases entries
  rfl

end Table

end PageCompiler
