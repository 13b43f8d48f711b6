/-
  The index of a document loses and duplicates nothing.

  `Index.ofNodes` goes over the nodes once: it keeps the first id of each name, puts each node that has a
  parent behind those in its slot, and orders the slots at the end. After any number of nodes its tables
  hold what scanning these nodes finds (`Index.Gathers`), so the look-ups of a snapshot, which scan, and
  the index give the same answers. What is in the index is said without either (`Index.Describes`): as a
  rearrangement of the placed nodes, with an order for slots and one for siblings. The name of a slot is
  taken from the parent prop (`Node.slotName`).
-/
import Mathlib.Data.List.Perm.Basic
import PageCompiler.Proofs.TreeWalk

namespace PageCompiler

/-! ## Grouping -/

/-- The groups of a list, key by key, are the list in another order. -/
theorem flatMap_filter_perm {α β : Type} [DecidableEq β] (key : α → β) {keys : List β}
    {items : List α} (distinct : keys.Nodup) (covered : ∀ item ∈ items, key item ∈ keys) :
    (keys.flatMap fun name => items.filter (key · = name)).Perm items := by
  induction keys generalizing items with
  | nil =>
      rw [List.eq_nil_iff_forall_not_mem.mpr fun item member => nomatch covered item member]
      exact .refl _
  | cons name keys ih =>
      obtain ⟨fresh, distinct⟩ := List.nodup_cons.mp distinct
      have others : ∀ item ∈ items.filter (key · ≠ name), key item ∈ keys := by
        intro item member
        obtain ⟨inItems, differs⟩ := List.mem_filter.mp member
        exact (List.mem_cons.mp (covered item inItems)).resolve_left (of_decide_eq_true differs)
      -- The groups of the other keys lie in what the first group leaves.
      have groups : (keys.flatMap fun other => items.filter (key · = other)) =
          keys.flatMap fun other => (items.filter (key · ≠ name)).filter (key · = other) := by
        refine List.flatMap_congr fun other member => ?_
        rw [List.filter_filter]
        refine List.filter_congr fun item _ => ?_
        have apart : other ≠ name := fun same => fresh (same ▸ member)
        by_cases same : key item = other <;> simp [same, apart]
      rw [List.flatMap_cons, groups]
      refine ((ih distinct others).append_left _).trans ?_
      simpa using List.filter_append_perm (fun item => decide (key item = name)) items

/-- Without repetitions, keys come in the order in which they are first met. -/
theorem pairwise_findIdx_eraseDups {α β : Type} [BEq β] [LawfulBEq β] [DecidableEq β]
    (isMember : α → Bool) (key : α → β) (items : List α) :
    ((items.filter isMember).map key).eraseDups.Pairwise fun name later =>
      items.findIdx (fun item => isMember item && key item = name) <
        items.findIdx fun item => isMember item && key item = later := by
  induction items using List.reverseRecOn with
  | nil => exact .nil
  | append_singleton items item ih =>
      -- What was found among the first items is found there again.
      have kept : ∀ name ∈ (items.filter isMember).map key, ∀ more,
          (items ++ more).findIdx (fun item => isMember item && key item = name) =
              items.findIdx (fun item => isMember item && key item = name) ∧
            items.findIdx (fun item => isMember item && key item = name) < items.length := by
        intro name member more
        obtain ⟨other, inFilter, rfl⟩ := List.mem_map.mp member
        obtain ⟨inItems, counts⟩ := List.mem_filter.mp inFilter
        have found := List.findIdx_lt_length_of_exists
          (p := fun item => isMember item && decide (key item = key other))
          ⟨other, inItems, by simp [counts]⟩
        exact ⟨by rw [List.findIdx_append, if_pos found], found⟩
      have earlier : ((items.filter isMember).map key).eraseDups.Pairwise fun name later =>
          (items ++ [item]).findIdx (fun item => isMember item && key item = name) <
            (items ++ [item]).findIdx fun item => isMember item && key item = later := by
        refine ih.imp_of_mem fun {name later} member laterMember less => ?_
        rw [List.mem_eraseDups] at member laterMember
        rw [(kept name member [item]).1, (kept later laterMember [item]).1]
        exact less
      rw [List.filter_append, List.map_append]
      cases counts : isMember item with
      | false => simpa [counts] using earlier
      | true =>
          have single : ([item].filter isMember).map key = [key item] := by simp [counts]
          rw [single, eraseDups_concat]
          split
          · exact earlier
          · next fresh =>
              refine List.pairwise_append.mpr ⟨earlier, List.pairwise_singleton _ _, ?_⟩
              intro name member later isLast
              rw [List.mem_eraseDups] at member
              obtain ⟨same, found⟩ := kept name member [item]
              have notFound : ¬ items.findIdx (fun other => isMember other && key other = key item) <
                  items.length := by
                rw [List.findIdx_lt_length]
                rintro ⟨other, inItems, isFirst⟩
                rw [Bool.and_eq_true, decide_eq_true_iff] at isFirst
                exact fresh (List.mem_map.mpr
                  ⟨other, List.mem_filter.mpr ⟨inItems, isFirst.1⟩, isFirst.2⟩)
              rw [List.mem_singleton.mp isLast, same, List.findIdx_append, if_neg notFound]
              exact Nat.lt_add_left _ found

/-! ## The order of a slot -/

theorem filter_insertByIndex (node : Node) (nodes : List Node) (index : Option Text) :
    (insertByIndex node nodes).filter (·.parentIndex = index) =
      (node :: nodes).filter (·.parentIndex = index) := by
  induction nodes with
  | nil => rfl
  | cons next rest ih =>
      rw [insertByIndex]
      split
      · rfl
      · next after =>
          -- The node passes only those that have another index.
          rw [List.filter_cons, ih]
          by_cases here : node.parentIndex = index
          · have apart : next.parentIndex ≠ index := by
              rintro rfl
              rw [here] at after
              exact after ((indexLe_total _ _).elim id id)
            simp [here, apart]
          · simp [here, List.filter_cons]

/-- Nodes with one index keep their order. -/
theorem filter_sortByIndex (nodes : List Node) (index : Option Text) :
    (sortByIndex nodes).filter (·.parentIndex = index) = nodes.filter (·.parentIndex = index) := by
  induction nodes with
  | nil => rfl
  | cons node rest ih =>
      show (insertByIndex node (sortByIndex rest)).filter _ = _
      rw [filter_insertByIndex, List.filter_cons, List.filter_cons, ih]

theorem pairwise_sortByIndex (nodes : List Node) : (sortByIndex nodes).Pairwise IndexLe := by
  rw [sortByIndex_eq]
  exact List.pairwise_insertionSort IndexLe nodes

/-- Of two children of a slot the one that is listed first precedes the other. -/
theorem Document.pairwise_childrenIn (document : Document) (parentId slot : Text) :
    (document.snapshot.childrenIn parentId slot).Pairwise document.Precedes := by
  rw [List.pairwise_iff_forall_sublist]
  intro node later inOrder
  have notAfter : IndexLe node later :=
    List.pairwise_iff_forall_sublist.mp (pairwise_sortByIndex _) inOrder
  by_cases same : node.parentIndex = later.parentIndex
  · refine .earlier same ?_
    have kept := inOrder.filter fun other => decide (other.parentIndex = later.parentIndex)
    rw [Snapshot.childrenIn, filter_sortByIndex] at kept
    simp only [List.filter_cons, List.filter_nil, same, decide_true, if_true] at kept
    exact kept.trans (List.filter_sublist.trans
      (List.filter_sublist.trans List.filter_sublist))
  · rw [IndexLe] at notAfter
    cases isIndex : node.parentIndex with
    | none =>
        cases isOther : later.parentIndex with
        | none => exact absurd (isIndex.trans isOther.symm) same
        | some other =>
            rw [isIndex, isOther] at notAfter
            cases notAfter
    | some index =>
        cases isOther : later.parentIndex with
        | none => exact .indexed isIndex isOther
        | some other =>
            rw [isIndex, isOther] at notAfter same
            refine .smaller isIndex isOther ?_
            by_contra notLess
            exact same (congrArg some
              (List.le_antisymm (of_decide_eq_true notAfter) (List.not_lt.mp notLess)))

namespace Snapshot

/-! ## Scanning one node more -/

variable (nodes : List Node) (node : Node)

theorem idOfName?_concat (name : Text) :
    (Snapshot.mk (nodes ++ [node])).idOfName? name =
      ((Snapshot.mk nodes).idOfName? name).or (if node.name = name then some node.id else none) := by
  unfold idOfName?
  rw [List.find?_append]
  cases nodes.find? (·.name = name) with
  | some found => rfl
  | none => by_cases same : node.name = name <;> simp [same]

theorem placedBelow_concat (parentId : Text) :
    (Snapshot.mk (nodes ++ [node])).placedBelow parentId =
      (Snapshot.mk nodes).placedBelow parentId ++
        if node.parentId = some parentId then [node] else [] := by
  unfold placedBelow
  rw [List.filter_append]
  by_cases here : node.parentId = some parentId <;> simp [here]

theorem slots_concat (parentId : Text) :
    (Snapshot.mk (nodes ++ [node])).slots parentId =
      if node.parentId = some parentId then
        if node.slot ∈ (Snapshot.mk nodes).slots parentId then (Snapshot.mk nodes).slots parentId
        else (Snapshot.mk nodes).slots parentId ++ [node.slot]
      else (Snapshot.mk nodes).slots parentId := by
  unfold slots
  rw [placedBelow_concat, List.map_append]
  by_cases here : node.parentId = some parentId
  · simp only [if_pos here, List.map_cons, List.map_nil, eraseDups_concat, List.mem_eraseDups]
  · simp [here]

end Snapshot

/-! ## One pass over the nodes -/

/-- Children by parent and slot. -/
abbrev Places := Table (Table (List Node))

namespace Places

def slots (places : Places) (parentId : Text) : Table (List Node) :=
  (places.get? parentId).getD .empty

def siblings (places : Places) (parentId slot : Text) : List Node :=
  ((places.slots parentId).get? slot).getD []

/-- Puts a node behind those that are in its slot. -/
def put (places : Places) (node : Node) : Places :=
  match node.parentId with
  | none => places
  | some parentId =>
      let siblings := places.siblings parentId node.slot ++ [node]
      places.insert parentId ((places.slots parentId).insert node.slot siblings)

/-- The tables hold what scanning the nodes finds, with each slot in the order of the nodes. -/
structure Gathers (places : Places) (snapshot : Snapshot) : Prop where
  parents : places.keys = (snapshot.nodes.filterMap (·.parentId)).eraseDups
  slots : ∀ parentId, (places.slots parentId).keys = snapshot.slots parentId
  siblings : ∀ parentId slot,
    places.siblings parentId slot = (snapshot.placedBelow parentId).filter (·.slot = slot)

variable {places : Places} {node : Node} {nodes : List Node} {parentId : Text}

theorem slots_put (placed : node.parentId = some parentId) (query : Text) :
    (places.put node).slots query =
      if query = parentId then
        (places.slots parentId).insert node.slot (places.siblings parentId node.slot ++ [node])
      else places.slots query := by
  simp only [put, placed]
  rw [slots, Table.get?_insert]
  split <;> rfl

theorem siblings_put (placed : node.parentId = some parentId) (query slot : Text) :
    (places.put node).siblings query slot =
      if query = parentId ∧ slot = node.slot then places.siblings query slot ++ [node]
      else places.siblings query slot := by
  rw [siblings, slots_put placed]
  by_cases here : query = parentId
  · subst here
    rw [if_pos rfl, Table.get?_insert]
    by_cases same : slot = node.slot
    · subst same
      simp
    · simp [same, siblings]
  · simp [here, siblings]

theorem Gathers.put (gathers : places.Gathers ⟨nodes⟩) (node : Node) :
    (places.put node).Gathers ⟨nodes ++ [node]⟩ := by
  cases placed : node.parentId with
  | none =>
      have same : places.put node = places := by simp only [Places.put, placed]
      rw [same]
      refine ⟨by simpa [placed] using gathers.parents, fun parentId => ?_, fun parentId slot => ?_⟩
      · rw [gathers.slots, Snapshot.slots_concat, placed, if_neg nofun]
      · rw [gathers.siblings, Snapshot.placedBelow_concat, placed, if_neg nofun, List.append_nil]
  | some parentId =>
      refine ⟨?_, fun query => ?_, fun query slot => ?_⟩
      · have keys : (places.put node).keys =
            if parentId ∈ places.keys then places.keys else places.keys ++ [parentId] := by
          simp only [Places.put, placed, Table.keys_insert]
        simp only [keys, gathers.parents, List.mem_eraseDups, List.filterMap_append,
          List.filterMap_cons, placed, List.filterMap_nil, eraseDups_concat]
      · rw [slots_put placed, Snapshot.slots_concat, placed]
        by_cases here : query = parentId
        · subst here
          rw [if_pos rfl, if_pos rfl, Table.keys_insert, gathers.slots]
        · rw [if_neg here, if_neg fun same => here (Option.some.inj same).symm, gathers.slots]
      · rw [siblings_put placed, Snapshot.placedBelow_concat, placed, gathers.siblings,
          List.filter_append]
        by_cases here : query = parentId
        · subst here
          by_cases same : slot = node.slot
          · simp [same]
          · simp [same, Ne.symm same]
        · have apart : ¬ some parentId = some query := fun same => here (Option.some.inj same).symm
          rw [if_neg fun both => here both.1, if_neg apart, List.filter_nil, List.append_nil]

theorem gathers_empty : Gathers .empty ⟨[]⟩ := ⟨rfl, fun _ => rfl, fun _ _ => rfl⟩

def sorted (places : Places) : Places := places.map fun slots => slots.map sortByIndex

theorem slots_sorted (places : Places) (parentId : Text) :
    places.sorted.slots parentId = (places.slots parentId).map sortByIndex := by
  rw [slots, sorted, Table.get?_map, slots]
  cases places.get? parentId <;> rfl

theorem siblings_sorted (places : Places) (parentId slot : Text) :
    places.sorted.siblings parentId slot = sortByIndex (places.siblings parentId slot) := by
  rw [siblings, slots_sorted, Table.get?_map, siblings]
  cases (places.slots parentId).get? slot <;> rfl

end Places

/-- What stands in the tables: nodes with the parent and the slot under which they stand. -/
def Places.placements (places : Places) : List (Text × Text × Node) :=
  places.entries.flatMap fun (parentId, slots) =>
    slots.entries.flatMap fun (slot, siblings) => siblings.map fun node => (parentId, slot, node)

/-- What a document says about names and places, in tables. -/
structure Index where
  /-- The id that a name stands for. -/
  names : Table Text
  places : Places

namespace Index

def empty : Index := ⟨.empty, .empty⟩

/-- Enters the name of a node, unless it stands for another one. -/
def enterName (names : Table Text) (node : Node) : Table Text :=
  if names.contains node.name then names else names.insert node.name node.id

def add (index : Index) (node : Node) : Index :=
  ⟨enterName index.names node, index.places.put node⟩

/-- Enters the nodes one after the other and orders the slots at the end. -/
def ofNodes (nodes : List Node) : Index :=
  let gathered := nodes.foldl add empty
  { gathered with places := gathered.places.sorted }

structure Gathers (index : Index) (snapshot : Snapshot) : Prop where
  names : ∀ name, index.names.get? name = snapshot.idOfName? name
  places : index.places.Gathers snapshot

variable {index : Index} {nodes : List Node} {node : Node}

theorem get?_enterName (names : Table Text) (node : Node) (name : Text) :
    (enterName names node).get? name =
      (names.get? name).or (if node.name = name then some node.id else none) := by
  unfold enterName
  split
  · next known =>
      split
      · next same =>
          obtain ⟨id, found⟩ := Option.isSome_iff_exists.mp known
          rw [← same, found, Option.some_or]
      · exact (Option.or_none).symm
  · next fresh =>
      have absent : names.get? node.name = none := by simpa [Table.contains] using fresh
      rw [Table.get?_insert]
      by_cases same : node.name = name
      · rw [if_pos same.symm, if_pos same, ← same, absent, Option.none_or]
      · rw [if_neg (Ne.symm same), if_neg same, Option.or_none]

theorem Gathers.add (gathers : index.Gathers ⟨nodes⟩) (node : Node) :
    (index.add node).Gathers ⟨nodes ++ [node]⟩ where
  names name := by rw [Index.add, get?_enterName, gathers.names, Snapshot.idOfName?_concat]
  places := gathers.places.put node

theorem gathers_foldl {front : List Node} (gathers : index.Gathers ⟨front⟩) (nodes : List Node) :
    (nodes.foldl add index).Gathers ⟨front ++ nodes⟩ := by
  induction nodes generalizing index front with
  | nil => simpa using gathers
  | cons node rest ih => simpa using ih (gathers.add node)

theorem gathers_nodes (nodes : List Node) : (nodes.foldl add empty).Gathers ⟨nodes⟩ := by
  have start : empty.Gathers ⟨[]⟩ := ⟨fun _ => rfl, Places.gathers_empty⟩
  exact gathers_foldl start nodes

end Index

def Document.index (document : Document) : Index := .ofNodes document.values

namespace Document

variable (document : Document) (parentId slot : Text)

/-! ## What scanning finds is in the index -/

theorem names_index (name : Text) :
    document.index.names.get? name = document.snapshot.idOfName? name :=
  (Index.gathers_nodes document.values).names name

theorem keys_places :
    document.index.places.keys = (document.values.filterMap (·.parentId)).eraseDups := by
  have gathers := (Index.gathers_nodes document.values).places
  exact (Table.keys_map ..).trans gathers.parents

theorem keys_slots :
    (document.index.places.slots parentId).keys = document.snapshot.slots parentId := by
  have gathers := (Index.gathers_nodes document.values).places
  show (Places.slots (Places.sorted _) parentId).keys = _
  rw [Places.slots_sorted, Table.keys_map]
  exact gathers.slots parentId

theorem siblings_index :
    document.index.places.siblings parentId slot = document.snapshot.childrenIn parentId slot := by
  have gathers := (Index.gathers_nodes document.values).places
  show Places.siblings (Places.sorted _) parentId slot = _
  rw [Places.siblings_sorted, gathers.siblings]
  rfl

theorem entries_slots : (document.index.places.slots parentId).entries =
    (document.snapshot.slots parentId).map fun slot =>
      (slot, document.snapshot.childrenIn parentId slot) := by
  rw [Table.entries_eq_map_keys _ [], keys_slots]
  refine List.map_congr_left fun slot _ => ?_
  rw [← siblings_index]
  rfl

theorem entries_places : document.index.places.entries =
    (document.values.filterMap (·.parentId)).eraseDups.map fun parentId =>
      (parentId, document.index.places.slots parentId) := by
  rw [Table.entries_eq_map_keys _ .empty, keys_places]
  rfl

end Document

/-! ## What the index says -/

namespace Node

variable (node : Node)

/-- The parent prop, where none and an empty one stand for `children`. -/
def slotName : Text := (node.parentProp.filter (· ≠ [])).getD "children"

/-- The node with its parent and its slot, if it has a parent. -/
def placement? : Option (Text × Text × Node) :=
  node.parentId.map fun parentId => (parentId, node.slotName, node)

theorem slotName_eq : node.slotName = node.slot := by
  unfold slotName slot
  match node.parentProp with
  | none => rfl
  | some [] => rfl
  | some (first :: rest) => rfl

theorem placement?_eq :
    node.placement? = node.parentId.map fun parentId => (parentId, node.slot, node) := by
  rw [placement?, slotName_eq]

end Node

/-- Where in the document the first child of a slot stands. -/
def Document.firstChild (document : Document) (parentId slot : Text) : Nat :=
  document.values.findIdx fun node => node.parentId = some parentId && node.slotName = slot

structure Index.Describes (index : Index) (document : Document) : Prop where
  /-- A name stands for the first node that has it. -/
  names : ∀ name, index.names.get? name = (document.values.find? (·.name = name)).map (·.id)
  /-- Each node with a parent stands once, under its parent and its slot, and there is nothing else. -/
  placements : index.places.placements.Perm (document.values.filterMap Node.placement?)
  /-- No parent is without slots, and no slot without children. -/
  occupied : ∀ parentId ∈ index.places.keys, (index.places.slots parentId).keys ≠ [] ∧
    ∀ slot ∈ (index.places.slots parentId).keys, index.places.siblings parentId slot ≠ []
  /-- Slots come in the order of their first children. -/
  slots : ∀ parentId, (index.places.slots parentId).keys.Pairwise fun slot later =>
    document.firstChild parentId slot < document.firstChild parentId later
  siblings : ∀ parentId slot, (index.places.siblings parentId slot).Pairwise document.Precedes

namespace Document

variable (document : Document) (parentId slot : Text)

theorem filter_placements :
    (document.values.filterMap Node.placement?).filter (·.1 = parentId) =
      (document.snapshot.placedBelow parentId).map fun node => (parentId, node.slot, node) := by
  show _ = (document.values.filter _).map _
  induction document.values with
  | nil => rfl
  | cons node rest ih =>
      rw [List.filterMap_cons]
      cases placed : node.parentId with
      | none => simpa [Node.placement?_eq, placed] using ih
      | some other =>
          by_cases here : other = parentId
          · subst here
            simpa [Node.placement?_eq, placed] using ih
          · simpa [Node.placement?_eq, placed, here] using ih

/-- Below one parent the placements are the nodes that are placed there. -/
theorem placements_slots : ((document.index.places.slots parentId).entries.flatMap fun entry =>
      entry.2.map fun node => (parentId, entry.1, node)).Perm
    ((document.snapshot.placedBelow parentId).map fun node => (parentId, node.slot, node)) := by
  rw [entries_slots, List.flatMap_map]
  have grouped := flatMap_filter_perm Node.slot (nodup_eraseDups _)
    fun node (member : node ∈ document.snapshot.placedBelow parentId) =>
      List.mem_eraseDups.mpr (List.mem_map_of_mem member)
  have placed := grouped.map fun node => (parentId, node.slot, node)
  rw [List.map_flatMap] at placed
  refine List.Perm.trans (List.Perm.flatMap_left _ fun slot _ => ?_) placed
  refine ((sortByIndex_perm _).map _).trans (.of_eq (List.map_congr_left fun node member => ?_))
  rw [of_decide_eq_true (List.mem_filter.mp member).2]

theorem placements_index : document.index.places.placements.Perm
    (document.values.filterMap Node.placement?) := by
  have parents : (document.values.filterMap (·.parentId)).eraseDups =
      ((document.values.filterMap Node.placement?).map Prod.fst).eraseDups := by
    rw [List.map_filterMap]
    simp [Node.placement?, Function.comp_def]
  have grouped := flatMap_filter_perm Prod.fst (nodup_eraseDups _)
    fun item (member : item ∈ document.values.filterMap Node.placement?) =>
      List.mem_eraseDups.mpr (List.mem_map_of_mem member)
  rw [Places.placements, entries_places, parents, List.flatMap_map]
  refine List.Perm.trans (List.Perm.flatMap_left _ fun parentId _ => ?_) grouped
  rw [filter_placements]
  exact document.placements_slots parentId

/-- In the index a slot has a child, and a parent a slot. -/
theorem occupied_index (listed : parentId ∈ document.index.places.keys) :
    (document.index.places.slots parentId).keys ≠ [] ∧
      ∀ slot ∈ (document.index.places.slots parentId).keys,
        document.index.places.siblings parentId slot ≠ [] := by
  rw [keys_places, List.mem_eraseDups] at listed
  obtain ⟨node, inDocument, placed⟩ := List.mem_filterMap.mp listed
  have below : node ∈ document.snapshot.placedBelow parentId :=
    Snapshot.mem_placedBelow.mpr ⟨inDocument, placed⟩
  rw [keys_slots, Snapshot.slots]
  constructor
  · exact List.ne_nil_of_mem (List.mem_eraseDups.mpr (List.mem_map_of_mem below))
  · intro slot member
    obtain ⟨child, inSlot, rfl⟩ := List.mem_map.mp (List.mem_eraseDups.mp member)
    rw [siblings_index]
    exact List.ne_nil_of_mem (Snapshot.mem_childrenIn.mpr ⟨inSlot, rfl⟩)

/-- One pass over the nodes puts each node with a parent into its slot, once and in its order, and the
    look-ups of a snapshot read the tables of that pass. -/
theorem index_describes : document.index.Describes document ∧
    (∀ name, document.snapshot.idOfName? name = document.index.names.get? name) ∧
      ∀ node, document.snapshot.children node =
        if node.isPage then
          [(("children" : Text), document.index.places.siblings node.id "children")]
        else (document.index.places.slots node.id).entries := by
  refine ⟨⟨document.names_index, document.placements_index, document.occupied_index,
    fun parentId => ?_, fun parentId slot => ?_⟩, fun name => (document.names_index name).symm,
    fun node => ?_⟩
  · simp only [firstChild, Node.slotName_eq]
    rw [keys_slots, Snapshot.slots, Snapshot.placedBelow]
    exact pairwise_findIdx_eraseDups (fun node => decide (node.parentId = some parentId)) Node.slot
      document.values
  · rw [siblings_index]
    exact document.pairwise_childrenIn parentId slot
  · rw [siblings_index, entries_slots]
    rfl

end Document

end PageCompiler
