/-
  The nodes below a node. A node has at most one parent, so a walk down from a node that is not below
  itself never comes back to a node it has met, and ends; what it lists are the nodes below.
-/
import Mathlib.Data.List.Forall2
import Mathlib.Data.List.Nodup
import PageCompiler.Proofs.KeyedDocument

namespace PageCompiler

theorem exists_of_mem_forall₂ {α β : Type} {related : α → β → Prop} {items : List α}
    {others : List β} {item : α} (all : List.Forall₂ related items others) (member : item ∈ items) :
    ∃ other ∈ others, related item other := by
  induction all with
  | nil => cases member
  | @cons first second _ _ pair _ ih =>
      rcases List.mem_cons.mp member with rfl | later
      · exact ⟨second, List.mem_cons_self, pair⟩
      · obtain ⟨other, inOthers, found⟩ := ih later
        exact ⟨other, List.mem_cons_of_mem _ inOthers, found⟩

theorem exists_of_getElem?_forall₂ {α β : Type} {related : α → β → Prop} {items : List α}
    {others : List β} {position : Nat} {item : α} (all : List.Forall₂ related items others)
    (found : items[position]? = some item) :
    ∃ other, others[position]? = some other ∧ related item other := by
  induction all generalizing position with
  | nil => cases found
  | @cons first second _ _ pair _ ih =>
      cases position with
      | zero =>
          cases found
          exact ⟨second, rfl, pair⟩
      | succ position => exact ih found

theorem insertByIndex_perm (node : Node) (nodes : List Node) :
    (insertByIndex node nodes).Perm (node :: nodes) := by
  induction nodes with
  | nil => exact .refl _
  | cons next rest ih =>
      rw [insertByIndex]
      split
      · exact .refl _
      · exact (ih.cons next).trans (List.Perm.swap node next rest)

theorem sortByIndex_perm (nodes : List Node) : (sortByIndex nodes).Perm nodes := by
  induction nodes with
  | nil => exact .refl _
  | cons node rest ih => exact (insertByIndex_perm node (sortByIndex rest)).trans (ih.cons node)

theorem exists_of_mapM_eq_none {α β : Type} {f : α → Option β} {items : List α}
    (failed : items.mapM f = none) : ∃ item ∈ items, f item = none := by
  induction items with
  | nil => simp at failed
  | cons item rest ih =>
      rw [List.mapM_cons] at failed
      cases first : f item with
      | none => exact ⟨item, by simp, first⟩
      | some value =>
          have restFailed : rest.mapM f = none := by
            cases others : rest.mapM f with
            | none => rfl
            | some values => simp [first, others] at failed
          obtain ⟨other, member, none⟩ := ih restFailed
          exact ⟨other, by simp [member], none⟩

theorem forall_of_mapM_eq_some {α β : Type} {f : α → Option β} {items : List α} {values : List β}
    (mapped : items.mapM f = some values) :
    (∀ item ∈ items, ∃ value ∈ values, f item = some value) ∧
      ∀ value ∈ values, ∃ item ∈ items, f item = some value := by
  induction items generalizing values with
  | nil =>
      simp only [List.mapM_nil, Option.pure_def, Option.some.injEq] at mapped
      simp [← mapped]
  | cons item rest ih =>
      simp only [List.mapM_cons, Option.bind_eq_bind, Option.bind_eq_some_iff, Option.pure_def,
        Option.some.injEq] at mapped
      obtain ⟨first, mappedFirst, others, mappedRest, rfl⟩ := mapped
      obtain ⟨forward, backward⟩ := ih mappedRest
      constructor
      · intro other member
        rcases List.mem_cons.mp member with rfl | below
        · exact ⟨first, List.mem_cons_self, mappedFirst⟩
        · obtain ⟨value, inOthers, mappedOther⟩ := forward other below
          exact ⟨value, List.mem_cons_of_mem _ inOthers, mappedOther⟩
      · intro value member
        rcases List.mem_cons.mp member with rfl | below
        · exact ⟨item, List.mem_cons_self, mappedFirst⟩
        · obtain ⟨other, inRest, mappedOther⟩ := backward value below
          exact ⟨other, List.mem_cons_of_mem _ inRest, mappedOther⟩

namespace Snapshot

variable {snapshot : Snapshot}

theorem mem_placedBelow {parentId : Text} {node : Node} :
    node ∈ snapshot.placedBelow parentId ↔
      node ∈ snapshot.nodes ∧ node.parentId = some parentId := by
  simp [placedBelow]

theorem mem_childrenIn {parentId slot : Text} {node : Node} :
    node ∈ snapshot.childrenIn parentId slot ↔
      node ∈ snapshot.placedBelow parentId ∧ node.slot = slot := by
  rw [childrenIn, (sortByIndex_perm _).mem_iff]
  simp

/-- The children of a node are the nodes placed below it; a page shows those in its content slot. -/
theorem mem_childList {parent node : Node} :
    node ∈ snapshot.childList parent ↔
      node ∈ snapshot.nodes ∧ node.parentId = some parent.id ∧
        (parent.isPage = true → node.slot = Node.contentSlot) := by
  rw [← and_assoc, ← mem_placedBelow]
  unfold childList children
  by_cases page : parent.isPage = true
  · simp [page, mem_childrenIn]
  · simp only [page, if_false, List.flatMap_map, List.mem_flatMap, mem_childrenIn, slots,
      List.mem_eraseDups, List.mem_map, false_implies, and_true, Bool.false_eq_true]
    constructor
    · rintro ⟨_, _, placed, _⟩
      exact placed
    · intro placed
      exact ⟨node.slot, ⟨node, placed, rfl⟩, placed, rfl⟩

/-- A node is below another if a chain of children leads down to it. -/
inductive Below (snapshot : Snapshot) (top : Node) : Node → Prop
  | child {node : Node} : node ∈ snapshot.childList top → Below snapshot top node
  | deeper {middle node : Node} :
      Below snapshot top middle → node ∈ snapshot.childList middle → Below snapshot top node

namespace Below

variable {top middle node : Node}

theorem mem_nodes (below : snapshot.Below top node) : node ∈ snapshot.nodes := by
  cases below with
  | child member => exact (mem_childList.mp member).1
  | deeper _ member => exact (mem_childList.mp member).1

theorem trans (first : snapshot.Below top middle) (second : snapshot.Below middle node) :
    snapshot.Below top node := by
  induction second with
  | child member => exact first.deeper member
  | deeper _ member ih => exact ih.deeper member

theorem parentId_ne_none (below : snapshot.Below top node) : node.parentId ≠ none := by
  cases below with
  | child member => simp [(mem_childList.mp member).2.1]
  | deeper _ member => simp [(mem_childList.mp member).2.1]

theorem exists_parent (below : snapshot.Below top node) :
    ∃ parent, node ∈ snapshot.childList parent ∧ (top = parent ∨ snapshot.Below top parent) := by
  cases below with
  | child member => exact ⟨top, member, .inl rfl⟩
  | deeper above member => exact ⟨_, member, .inr above⟩

/-- Below a node are its children and what is below them. -/
theorem iff_child : snapshot.Below top node ↔
    ∃ child ∈ snapshot.childList top, node = child ∨ snapshot.Below child node := by
  constructor
  · intro below
    induction below with
    | child member => exact ⟨_, member, .inl rfl⟩
    | deeper _ member ih =>
        obtain ⟨child, first, rfl | below⟩ := ih
        · exact ⟨_, first, .inr (.child member)⟩
        · exact ⟨child, first, .inr (below.deeper member)⟩
  · rintro ⟨child, first, rfl | below⟩
    · exact .child first
    · exact (Below.child first).trans below

end Below

/-- Ids stand for one node each. -/
def DistinctIds (snapshot : Snapshot) : Prop :=
  ∀ node ∈ snapshot.nodes, ∀ other ∈ snapshot.nodes, node.id = other.id → node = other

variable {top node : Node}

/-- A node is a child of one node only. -/
theorem parent_unique (distinct : snapshot.DistinctIds) {first second : Node}
    (firstMember : first ∈ snapshot.nodes) (secondMember : second ∈ snapshot.nodes)
    (inFirst : node ∈ snapshot.childList first) (inSecond : node ∈ snapshot.childList second) :
    first = second := by
  have same := (mem_childList.mp inFirst).2.1.symm.trans (mem_childList.mp inSecond).2.1
  exact distinct first firstMember second secondMember (Option.some.inj same)

/-- Both parents of a node on its way down are the same, so a loop below a node goes through it. -/
theorem Below.self_of_loop (distinct : snapshot.DistinctIds) (topMember : top ∈ snapshot.nodes)
    (below : snapshot.Below top node) (loop : snapshot.Below node node) :
    snapshot.Below top top := by
  induction below with
  | @child node member =>
      obtain ⟨parent, own, rfl | down⟩ := loop.exists_parent
      · obtain rfl := parent_unique distinct topMember (mem_childList.mp own).1 member own
        exact .child member
      · obtain rfl := parent_unique distinct topMember down.mem_nodes member own
        exact (Below.child member).trans down
  | @deeper middle node above member ih =>
      obtain ⟨parent, own, rfl | down⟩ := loop.exists_parent
      · obtain rfl := parent_unique distinct above.mem_nodes (mem_childList.mp own).1 member own
        exact ih (.child member)
      · obtain rfl := parent_unique distinct above.mem_nodes down.mem_nodes member own
        exact ih ((Below.child member).trans down)

theorem descendantsWithin_succ (fuel : Nat) (top : Node) :
    snapshot.descendantsWithin (fuel + 1) top =
      ((snapshot.childList top).mapM fun child =>
        (snapshot.descendantsWithin fuel child).map (child :: ·)).map List.flatten := by
  rw [descendantsWithin, Option.map_eq_bind]
  rfl

/-- If a walk ends, so do the walks down from the children. -/
theorem exists_walk_of_mem {fuel : Nat} {top child : Node} {nodes : List Node}
    (walked : snapshot.descendantsWithin (fuel + 1) top = some nodes)
    (member : child ∈ snapshot.childList top) :
    ∃ lower, snapshot.descendantsWithin fuel child = some lower := by
  rw [descendantsWithin_succ] at walked
  obtain ⟨subtrees, mapped, _⟩ := Option.map_eq_some_iff.mp walked
  obtain ⟨subtree, _, walkedChild⟩ := (forall_of_mapM_eq_some mapped).1 child member
  obtain ⟨lower, walkedLower, _⟩ := Option.map_eq_some_iff.mp walkedChild
  exact ⟨lower, walkedLower⟩

/-- A walk that does not end at a child does not end at its parent. -/
theorem descendantsWithin_eq_none_of_mem {fuel : Nat} {top child : Node}
    (member : child ∈ snapshot.childList top)
    (lost : snapshot.descendantsWithin fuel child = none) :
    snapshot.descendantsWithin (fuel + 1) top = none := by
  cases walked : snapshot.descendantsWithin (fuel + 1) top with
  | none => rfl
  | some nodes =>
      obtain ⟨lower, walkedChild⟩ := exists_walk_of_mem walked member
      rw [lost] at walkedChild
      cases walkedChild

/-- A walk that runs out of depth has gone down a chain of that length. -/
theorem exists_chain_of_descendantsWithin {fuel : Nat} {top : Node}
    (tooDeep : snapshot.descendantsWithin fuel top = none) :
    ∃ path : List Node, path.length = fuel ∧ (top :: path).Pairwise snapshot.Below := by
  induction fuel generalizing top with
  | zero => exact ⟨[], rfl, by simp⟩
  | succ fuel ih =>
      rw [descendantsWithin_succ, Option.map_eq_none_iff] at tooDeep
      obtain ⟨child, member, stuck⟩ := exists_of_mapM_eq_none tooDeep
      obtain ⟨path, length, chain⟩ := ih (Option.map_eq_none_iff.mp stuck)
      refine ⟨child :: path, by simp [length], ?_⟩
      rw [List.pairwise_cons]
      refine ⟨?_, chain⟩
      intro node inPath
      rcases List.mem_cons.mp inPath with rfl | later
      · exact .child member
      · exact (Below.child member).trans ((List.pairwise_cons.mp chain).1 node later)

/-- A walk down from a node that is not below itself ends. -/
theorem exists_descendants (distinct : snapshot.DistinctIds) (topMember : top ∈ snapshot.nodes)
    (noLoop : ¬ snapshot.Below top top) : ∃ nodes, snapshot.descendants? top = some nodes := by
  cases walked : snapshot.descendants? top with
  | some nodes => exact ⟨nodes, rfl⟩
  | none =>
      obtain ⟨path, length, chain⟩ := exists_chain_of_descendantsWithin walked
      obtain ⟨belowTop, pathChain⟩ := List.pairwise_cons.mp chain
      -- A node that stands twice on the chain is below itself, and so is then the top.
      have pathNodup : path.Nodup := by
        refine pathChain.imp_of_mem ?_
        rintro node _ member _ below rfl
        exact noLoop ((belowTop node member).self_of_loop distinct topMember below)
      have few := pathNodup.length_le_of_subset fun node member => (belowTop node member).mem_nodes
      simp only [length, depthBound] at few
      omega

theorem mem_descendantsWithin {fuel : Nat} {top : Node} {nodes : List Node}
    (walked : snapshot.descendantsWithin fuel top = some nodes) (node : Node) :
    node ∈ nodes ↔ snapshot.Below top node := by
  induction fuel generalizing top nodes with
  | zero => simp [descendantsWithin] at walked
  | succ fuel ih =>
      rw [descendantsWithin_succ, Option.map_eq_some_iff] at walked
      obtain ⟨subtrees, mapped, rfl⟩ := walked
      obtain ⟨forward, backward⟩ := forall_of_mapM_eq_some mapped
      rw [List.mem_flatten, Below.iff_child]
      constructor
      · rintro ⟨subtree, member, inside⟩
        obtain ⟨child, isChild, walkedChild⟩ := backward subtree member
        obtain ⟨lower, walkedLower, rfl⟩ := Option.map_eq_some_iff.mp walkedChild
        rcases List.mem_cons.mp inside with same | below
        · exact ⟨child, isChild, .inl same⟩
        · exact ⟨child, isChild, .inr ((ih walkedLower).mp below)⟩
      · rintro ⟨child, isChild, here⟩
        obtain ⟨subtree, member, walkedChild⟩ := forward child isChild
        obtain ⟨lower, walkedLower, rfl⟩ := Option.map_eq_some_iff.mp walkedChild
        refine ⟨child :: lower, member, ?_⟩
        rcases here with rfl | below
        · exact List.mem_cons_self
        · exact List.mem_cons_of_mem _ ((ih walkedLower).mpr below)

/-- A walk that ends lists the nodes below its start. -/
theorem mem_descendants {top : Node} {nodes : List Node}
    (walked : snapshot.descendants? top = some nodes) (node : Node) :
    node ∈ nodes ↔ snapshot.Below top node :=
  mem_descendantsWithin walked node

end Snapshot

theorem Document.Keyed.distinctIds {document : Document} (keyed : document.Keyed) :
    document.snapshot.DistinctIds :=
  fun _ member _ otherMember same => keyed.eq_of_id_eq member otherMember same

end PageCompiler
