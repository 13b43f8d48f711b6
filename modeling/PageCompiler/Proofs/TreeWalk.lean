/-
  The walk down from a node lists the tree below it, each node once.

  Parents are ids, so a document may hold loops and nodes whose parent is missing, and the walk keeps no
  record of where it has been. But a node has one parent only. Two nodes above a third one are therefore
  above one another (`Below.linear`), and a walk that comes to a loop has started on it. The trees below
  two siblings are apart for the same reason, and nothing is listed twice.

  `Listing` is the order of the walk without its depth. What it says about one level it says about all:
  behind each node stands the listing of its children, as one block.
-/
import Mathlib.Logic.Relation
import PageCompiler.Proofs.Insertion
import PageCompiler.Proofs.Siblings

namespace PageCompiler

namespace Snapshot

variable {snapshot : Snapshot} {top first second node : Node} {roots nodes : List Node}

/-- Of two nodes above a third one, one is above the other. -/
theorem Below.linear (distinct : snapshot.DistinctIds) (firstMember : first ∈ snapshot.nodes)
    (secondMember : second ∈ snapshot.nodes) (below : snapshot.Below first node)
    (other : snapshot.Below second node) :
    first = second ∨ snapshot.Below first second ∨ snapshot.Below second first := by
  induction below with
  | child member =>
      obtain ⟨parent, inParent, here⟩ := other.exists_parent
      rcases here with rfl | above
      · exact .inl (parent_unique distinct firstMember secondMember member inParent)
      · have same := parent_unique distinct firstMember above.mem_nodes member inParent
        exact .inr (.inr (same ▸ above))
  | deeper above member ih =>
      obtain ⟨parent, inParent, here⟩ := other.exists_parent
      rcases here with rfl | otherAbove
      · have same := parent_unique distinct above.mem_nodes secondMember member inParent
        exact .inr (.inl (same ▸ above))
      · have same := parent_unique distinct above.mem_nodes otherAbove.mem_nodes member inParent
        exact ih (same ▸ otherAbove)

/-- Each root is followed by what is below it, and after that come the other roots in turn. -/
inductive Listing (snapshot : Snapshot) : List Node → List Node → Prop
  | nil : Listing snapshot [] []
  | tree {root : Node} {roots below others : List Node} :
      Listing snapshot (snapshot.childList root) below → Listing snapshot roots others →
      Listing snapshot (root :: roots) (root :: (below ++ others))

theorem listing_of_mapM {walk : Node → Option (List Node)}
    (lists : ∀ {root below}, walk root = some below →
      snapshot.Listing (snapshot.childList root) below)
    {subtrees : List (List Node)}
    (mapped : (roots.mapM fun root => (walk root).map (root :: ·)) = some subtrees) :
    snapshot.Listing roots subtrees.flatten := by
  induction roots generalizing subtrees with
  | nil =>
      cases mapped
      exact .nil
  | cons root roots ih =>
      simp only [List.mapM_cons, Option.bind_eq_bind, Option.bind_eq_some_iff,
        Option.map_eq_some_iff, Option.pure_def, Option.some.injEq] at mapped
      obtain ⟨_, ⟨below, walkedRoot, rfl⟩, others, walkedRest, rfl⟩ := mapped
      exact .tree (lists walkedRoot) (ih walkedRest)

/-- A walk that ends is a listing. -/
theorem listing_of_walk {fuel : Nat} (walked : snapshot.descendantsWithin fuel top = some nodes) :
    snapshot.Listing (snapshot.childList top) nodes := by
  induction fuel generalizing top nodes with
  | zero => cases walked
  | succ fuel ih =>
      rw [descendantsWithin_succ] at walked
      obtain ⟨subtrees, mapped, rfl⟩ := Option.map_eq_some_iff.mp walked
      exact listing_of_mapM ih mapped

namespace Listing

theorem mem_iff (listing : snapshot.Listing roots nodes) :
    node ∈ nodes ↔ ∃ root ∈ roots, node = root ∨ snapshot.Below root node := by
  induction listing with
  | nil => simp
  | tree _ _ below others =>
      simp only [List.mem_cons, List.mem_append, below, others, ← Below.iff_child,
        exists_eq_or_imp, or_assoc]

theorem roots_sublist (listing : snapshot.Listing roots nodes) : roots.Sublist nodes := by
  induction listing with
  | nil => exact List.Sublist.slnil
  | @tree root _ below _ _ _ _ others =>
      exact (others.trans (List.sublist_append_right below _)).cons_cons root

/-- What is below a node stands behind it as one block. -/
theorem exists_subtree (listing : snapshot.Listing roots nodes) (member : node ∈ nodes) :
    ∃ front below back, nodes = front ++ node :: (below ++ back) ∧
      snapshot.Listing (snapshot.childList node) below := by
  induction listing with
  | nil => cases member
  | @tree root _ below others lists _ inside beside =>
      rcases List.mem_cons.mp member with rfl | later
      · exact ⟨[], below, others, rfl, lists⟩
      rcases List.mem_append.mp later with inBelow | inOthers
      · obtain ⟨front, block, back, rfl, listsBlock⟩ := inside inBelow
        exact ⟨root :: front, block, back ++ others, by simp, listsBlock⟩
      · obtain ⟨front, block, back, rfl, listsBlock⟩ := beside inOthers
        exact ⟨root :: (below ++ front), block, back, by simp, listsBlock⟩

/-- The children of a node are listed in their order. -/
theorem childList_sublist (listing : snapshot.Listing (snapshot.childList top) nodes)
    {parent : Node} (inTree : top = parent ∨ snapshot.Below top parent) :
    (snapshot.childList parent).Sublist nodes := by
  rcases inTree with rfl | below
  · exact listing.roots_sublist
  · obtain ⟨front, block, back, rfl, lists⟩ :=
      listing.exists_subtree (listing.mem_iff.mpr (Below.iff_child.mp below))
    have inBlock := lists.roots_sublist.trans (List.sublist_append_left block back)
    exact (inBlock.trans (List.sublist_cons_self parent _)).trans
      (List.sublist_append_right front _)

end Listing

theorem childrenIn_nodup (nodup : snapshot.nodes.Nodup) (parentId slot : Text) :
    (snapshot.childrenIn parentId slot).Nodup :=
  (sortByIndex_perm _).nodup_iff.mpr ((nodup.filter _).filter _)

theorem childList_nodup (nodup : snapshot.nodes.Nodup) (parent : Node) :
    (snapshot.childList parent).Nodup := by
  unfold childList children
  split
  · simpa using childrenIn_nodup nodup parent.id Node.contentSlot
  · rw [List.flatMap_map, List.nodup_flatMap]
    refine ⟨fun slot _ => childrenIn_nodup nodup parent.id slot, ?_⟩
    refine (nodup_eraseDups _).imp fun {slot other} differs node inSlot inOther => differs ?_
    exact (mem_childrenIn.mp inSlot).2.symm.trans (mem_childrenIn.mp inOther).2

/-- A node is not below its sibling, unless their parent is on a loop. -/
theorem not_below_sibling (distinct : snapshot.DistinctIds) {parent : Node}
    (parentMember : parent ∈ snapshot.nodes) (noLoop : ¬ snapshot.Below parent parent)
    (isFirst : first ∈ snapshot.childList parent) (isSecond : second ∈ snapshot.childList parent) :
    ¬ snapshot.Below first second := by
  intro below
  obtain ⟨above, inAbove, here⟩ := below.exists_parent
  rcases here with rfl | down
  · have same :=
      parent_unique distinct parentMember (Below.child isFirst).mem_nodes isSecond inAbove
    exact noLoop (.child (same ▸ isFirst))
  · have same := parent_unique distinct parentMember down.mem_nodes isSecond inAbove
    exact noLoop ((Below.child isFirst).trans (same ▸ down))

/-- The trees below two siblings share no node. -/
theorem siblings_apart (distinct : snapshot.DistinctIds) {parent : Node}
    (parentMember : parent ∈ snapshot.nodes) (noLoop : ¬ snapshot.Below parent parent)
    (isFirst : first ∈ snapshot.childList parent) (isSecond : second ∈ snapshot.childList parent)
    (inFirst : node = first ∨ snapshot.Below first node)
    (inSecond : node = second ∨ snapshot.Below second node) : first = second := by
  have apart : ∀ {one other : Node}, one ∈ snapshot.childList parent →
      other ∈ snapshot.childList parent → ¬ snapshot.Below one other :=
    not_below_sibling distinct parentMember noLoop
  rcases inFirst with rfl | belowFirst
  · rcases inSecond with same | below
    · exact same
    · exact absurd below (apart isSecond isFirst)
  · rcases inSecond with rfl | belowSecond
    · exact absurd belowFirst (apart isFirst isSecond)
    · rcases belowFirst.linear distinct (Below.child isFirst).mem_nodes
        (Below.child isSecond).mem_nodes belowSecond with same | below | below
      · exact same
      · exact absurd below (apart isFirst isSecond)
      · exact absurd below (apart isSecond isFirst)

/-- A listing of siblings holds no node twice. -/
theorem Listing.nodup (distinct : snapshot.DistinctIds) (nodesNodup : snapshot.nodes.Nodup)
    (listing : snapshot.Listing roots nodes) {parent : Node}
    (parentMember : parent ∈ snapshot.nodes) (noLoop : ¬ snapshot.Below parent parent)
    (siblings : ∀ root ∈ roots, root ∈ snapshot.childList parent) (rootsNodup : roots.Nodup) :
    nodes.Nodup := by
  induction listing generalizing parent with
  | nil => exact List.nodup_nil
  | @tree root roots below others lists rest ih ihRest =>
      obtain ⟨isChild, areChildren⟩ := List.forall_mem_cons.mp siblings
      obtain ⟨notAgain, restNodup⟩ := List.nodup_cons.mp rootsNodup
      have rootMember := (Below.child isChild).mem_nodes
      have rootNoLoop : ¬ snapshot.Below root root := fun loop =>
        noLoop ((Below.child isChild).self_of_loop distinct parentMember loop)
      have inBelow : ∀ node ∈ below, snapshot.Below root node := fun node member =>
        Below.iff_child.mpr (lists.mem_iff.mp member)
      -- Whatever is in the tree of the first root is not in the trees of the others.
      have beside : ∀ node ∈ others, ¬ (node = root ∨ snapshot.Below root node) := by
        intro node member inRoot
        obtain ⟨sibling, isSibling, inSibling⟩ := rest.mem_iff.mp member
        have same := siblings_apart distinct parentMember noLoop isChild (areChildren _ isSibling)
          inRoot inSibling
        exact notAgain (same ▸ isSibling)
      have belowNodup := ih rootMember rootNoLoop (fun _ => id) (childList_nodup nodesNodup root)
      have othersNodup := ihRest parentMember noLoop areChildren restNodup
      refine List.nodup_cons.mpr ⟨fun member => ?_, ?_⟩
      · rcases List.mem_append.mp member with again | again
        · exact rootNoLoop (inBelow root again)
        · exact beside root again (.inl rfl)
      · refine List.nodup_append.mpr ⟨belowNodup, othersNodup, ?_⟩
        rintro node inBlock _ inOthers rfl
        exact beside node inOthers (.inr (inBelow node inBlock))

theorem descendantsWithin_mono {fuel more : Nat} (enough : fuel ≤ more)
    (walked : snapshot.descendantsWithin fuel top = some nodes) :
    snapshot.descendantsWithin more top = some nodes := by
  induction enough with
  | refl => exact walked
  | step _ ih => exact descendantsWithin_succ_of_some ih

end Snapshot

namespace Document

variable {document : Document} {top parent node later : Node}

/-- A step down: the node names the other one as its parent, and a page only takes children into its
    content slot. -/
def PlacedUnder (document : Document) (parent node : Node) : Prop :=
  node ∈ document.values ∧ node.parentId = some parent.id ∧
    (parent.isPage = true →
      node.parentProp = none ∨ node.parentProp = some [] ∨
        node.parentProp = some ("children" : Text))

/-- One or more steps lead down to the node. -/
def Under (document : Document) : Node → Node → Prop := Relation.TransGen document.PlacedUnder

theorem slot_eq_contentSlot_iff (node : Node) : node.slot = Node.contentSlot ↔
    node.parentProp = none ∨ node.parentProp = some [] ∨
      node.parentProp = some ("children" : Text) := by
  unfold Node.slot
  match node.parentProp with
  | none => simp
  | some [] => simp
  | some (first :: rest) => simp [Node.contentSlot]

theorem mem_childList_iff :
    node ∈ document.snapshot.childList parent ↔ document.PlacedUnder parent node := by
  rw [Snapshot.mem_childList, slot_eq_contentSlot_iff]
  rfl

theorem below_iff_under : document.snapshot.Below top node ↔ document.Under top node := by
  constructor
  · intro below
    induction below with
    | child member => exact .single (mem_childList_iff.mp member)
    | deeper _ member ih => exact ih.tail (mem_childList_iff.mp member)
  · intro under
    induction under with
    | single placed => exact .child (mem_childList_iff.mpr placed)
    | tail _ placed ih => exact ih.deeper (mem_childList_iff.mpr placed)

/-- A listing of the tree below a node: every node of it once, parents first, siblings of a slot in
    their order, and each tree in it as one block. -/
structure Preorder (document : Document) (top : Node) (nodes : List Node) : Prop where
  nodup : nodes.Nodup
  mem_iff : ∀ {node}, node ∈ nodes ↔ document.Under top node
  parent_first : ∀ {parent node}, parent ∈ nodes → document.PlacedUnder parent node →
    [parent, node].Sublist nodes
  sibling_first : ∀ {node later}, node ∈ nodes → later ∈ nodes →
    node.parentId = later.parentId → node.slot = later.slot → document.Precedes node later →
    [node, later].Sublist nodes
  block : ∀ {node}, node ∈ nodes → ∃ front below back, nodes = front ++ node :: (below ++ back) ∧
    ∀ other, other ∈ below ↔ document.Under node other

/-- The children of a slot are one of the blocks that the children are listed in. -/
theorem childrenIn_sublist {slot : Text} (placed : document.PlacedUnder parent node)
    (isSlot : node.slot = slot) :
    (document.snapshot.childrenIn parent.id slot).Sublist (document.snapshot.childList parent) := by
  rw [← mem_childList_iff, Snapshot.mem_childList, ← and_assoc,
    ← Snapshot.mem_placedBelow] at placed
  rw [Snapshot.childList, List.flatMap_def]
  refine List.sublist_flatten_of_mem (List.mem_map.mpr ⟨(slot, _), ?_, rfl⟩)
  unfold Snapshot.children
  split
  · next isPage =>
      rw [← isSlot, placed.2 isPage, List.mem_singleton]
      rfl
  · refine List.mem_map.mpr ⟨slot, ?_, rfl⟩
    rw [Snapshot.slots, List.mem_eraseDups]
    exact List.mem_map.mpr ⟨node, placed.1, isSlot⟩

/-- Siblings of a slot are listed in their order among the children of their parent. -/
theorem Precedes.sublist_childList (precedes : document.Precedes node later)
    (placed : document.PlacedUnder parent node) (laterPlaced : document.PlacedUnder parent later)
    (sameSlot : node.slot = later.slot) :
    [node, later].Sublist (document.snapshot.childList parent) := by
  refine List.Sublist.trans ?_ (childrenIn_sublist placed rfl)
  refine precedes.sublist_childrenIn ?_ ?_
  · exact Snapshot.mem_childrenIn.mpr ⟨Snapshot.mem_placedBelow.mpr ⟨placed.1, placed.2.1⟩, rfl⟩
  · exact Snapshot.mem_childrenIn.mpr
      ⟨Snapshot.mem_placedBelow.mpr ⟨laterPlaced.1, laterPlaced.2.1⟩, sameSlot.symm⟩

/-- The node that a node of the tree is placed under is the top of the tree or in it as well. -/
theorem Under.exists_parent (under : document.Under top node) :
    ∃ parent, document.PlacedUnder parent node ∧ (top = parent ∨ document.Under top parent) := by
  obtain ⟨parent, isChild, inTree⟩ := (below_iff_under.mpr under).exists_parent
  exact ⟨parent, mem_childList_iff.mp isChild, inTree.imp_right below_iff_under.mp⟩

theorem Under.mem_values (under : document.Under top node) : node ∈ document.values :=
  (below_iff_under.mpr under).mem_nodes

theorem preorder_of_listing (keyed : document.Keyed) (member : top ∈ document.values)
    (noLoop : ¬ document.Under top top) {nodes : List Node}
    (listing : document.snapshot.Listing (document.snapshot.childList top) nodes) :
    document.Preorder top nodes := by
  have mem_iff : ∀ {top : Node} {nodes : List Node},
      document.snapshot.Listing (document.snapshot.childList top) nodes →
        ∀ node, node ∈ nodes ↔ document.Under top node := fun listing node => by
    rw [listing.mem_iff, ← Snapshot.Below.iff_child, below_iff_under]
  have known : ∀ {parent}, top = parent ∨ document.Under top parent → parent ∈ document.values := by
    rintro _ (rfl | under)
    · exact member
    · exact under.mem_values
  refine ⟨?_, mem_iff listing _, ?_, ?_, ?_⟩
  · rw [← below_iff_under] at noLoop
    exact listing.nodup keyed.distinctIds keyed.values_nodup member noLoop (fun _ => id)
      (Snapshot.childList_nodup keyed.values_nodup top)
  · intro parent node inNodes placed
    obtain ⟨front, below, back, rfl, lists⟩ := listing.exists_subtree inNodes
    have inBelow : node ∈ below := (mem_iff lists node).mpr (.single placed)
    have behind : [node].Sublist (below ++ back) :=
      List.singleton_sublist.mpr (List.mem_append_left back inBelow)
    exact (behind.cons_cons parent).trans (List.sublist_append_right _ _)
  · intro node later inNodes laterInNodes sameParent sameSlot precedes
    obtain ⟨parent, placed, inTree⟩ := ((mem_iff listing node).mp inNodes).exists_parent
    obtain ⟨other, otherPlaced, otherInTree⟩ :=
      ((mem_iff listing later).mp laterInNodes).exists_parent
    have sameId : some parent.id = some other.id := by
      rw [← placed.2.1, ← otherPlaced.2.1, sameParent]
    obtain rfl : parent = other :=
      keyed.eq_of_id_eq (known inTree) (known otherInTree) (Option.some.inj sameId)
    exact (precedes.sublist_childList placed otherPlaced sameSlot).trans
      (listing.childList_sublist (inTree.imp_right below_iff_under.mpr))
  · intro node inNodes
    obtain ⟨front, below, back, isSplit, lists⟩ := listing.exists_subtree inNodes
    exact ⟨front, below, back, isSplit, mem_iff lists⟩

theorem not_under_self_of_root (isRoot : top.parentId = none) : ¬ document.Under top top :=
  fun loop => (below_iff_under.mpr loop).parentId_ne_none isRoot

/-- The walk down from a node has no end just if the node is below itself, as no root is. Otherwise
    it lists the tree below the node, and going deeper than the bound changes nothing. -/
theorem descendants_preorder (keyed : document.Keyed) (member : top ∈ document.values) :
    ((∀ fuel, document.snapshot.descendantsWithin fuel top = none) ↔ document.Under top top) ∧
      (top.parentId = none → ¬ document.Under top top) ∧
      (¬ document.Under top top → ∃ nodes, document.Preorder top nodes ∧
        document.snapshot.descendants? top = some nodes ∧
        ∀ fuel, document.snapshot.depthBound ≤ fuel →
          document.snapshot.descendantsWithin fuel top = some nodes) := by
  have ends : ¬ document.Under top top →
      ∃ nodes, document.snapshot.descendants? top = some nodes := fun noLoop =>
    Snapshot.exists_descendants keyed.distinctIds member (below_iff_under.not.mpr noLoop)
  refine ⟨⟨fun never => ?_, fun loop fuel => ?_⟩, not_under_self_of_root, fun noLoop => ?_⟩
  · by_contra noLoop
    obtain ⟨nodes, walked⟩ := ends noLoop
    cases (never _).symm.trans walked
  · exact Snapshot.descendantsWithin_of_loop (below_iff_under.mpr loop)
  · obtain ⟨nodes, walked⟩ := ends noLoop
    exact ⟨nodes, preorder_of_listing keyed member noLoop (Snapshot.listing_of_walk walked), walked,
      fun _ enough => Snapshot.descendantsWithin_mono enough walked⟩

end Document

namespace Tangled

def element (id : Text) (parentId : Text) (parentProp parentIndex : Option Text) : Node :=
  ⟨id, id, .empty, some parentId, parentProp, parentIndex, .element "Box"⟩

def page : Node := ⟨"page", "page", .empty, none, none, none, .page []⟩

/-- A page in the page, which shows one of its two children. -/
def inner : Node := ⟨"inner", "inner", .empty, some "box", some [], none, .page []⟩

/-- Two nodes that are below one another. -/
def left : Node := element "left" "right" none none

def right : Node := element "right" "left" none none

def nodes : List Node := [
  left, page, element "last" "page" none none, element "box" "page" none (some "b"),
  element "icon" "box" (some "icon") (some "a"), element "shown" "inner" none none,
  element "hidden" "inner" (some "side") none, inner, element "first" "page" none (some "a"),
  element "also" "page" none (some "a"), element "stray" "nowhere" none none, right]

def document : Document := .ofList (nodes.map fun node => (node.id, node))

/-- The tree below the page. -/
def listed : List Text := ["first", "also", "box", "icon", "inner", "shown", "last"]

end Tangled

theorem descendants_preorder_tangled :
    (∃ nodes, Tangled.document.Preorder Tangled.page nodes ∧
      nodes.map Node.id = Tangled.listed) ∧
    ∀ fuel, Tangled.document.snapshot.descendantsWithin fuel Tangled.left = none := by
  have keyed : Tangled.document.Keyed := by decide +kernel
  have pageMember : Tangled.page ∈ Tangled.document.values := .tail _ (.head _)
  have leftMember : Tangled.left ∈ Tangled.document.values := .head _
  have rightMember : Tangled.right ∈ Tangled.document.values :=
    Table.mem_values_iff.mpr ⟨"right", rfl⟩
  have loop : Tangled.document.Under Tangled.left Tangled.left :=
    .tail (.single ⟨rightMember, rfl, nofun⟩) ⟨leftMember, rfl, nofun⟩
  refine ⟨?_, (Document.descendants_preorder keyed leftMember).1.mpr loop⟩
  obtain ⟨_, root, lists⟩ := Document.descendants_preorder keyed pageMember
  obtain ⟨nodes, preorder, walked, _⟩ := lists (root rfl)
  have ids : (Tangled.document.snapshot.descendants? Tangled.page).map (·.map Node.id) =
      some Tangled.listed := by decide +kernel
  rw [walked] at ids
  exact ⟨nodes, preorder, Option.some.inj ids⟩

end PageCompiler
