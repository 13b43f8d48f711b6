/-
  A document with one more node.

  The new node stands at any place of the document, under an id that is new. A look-up by another id or
  by another name finds what it found before. A node that the new one is not below keeps its children,
  so a walk down from it meets the same nodes in the same order, however long the walk may be.
-/
import PageCompiler.Proofs.Descent

namespace PageCompiler

theorem mapM_congr {m : Type → Type} [Monad m] [LawfulMonad m] {α β : Type} {items : List α}
    {step step' : α → m β} (same : ∀ item ∈ items, step' item = step item) :
    items.mapM step' = items.mapM step := by
  induction items with
  | nil => rfl
  | cons item rest ih =>
      rw [List.mapM_cons, List.mapM_cons, same item List.mem_cons_self,
        ih fun other member => same other (.tail _ member)]

namespace Snapshot

variable {snapshot : Snapshot} {top : Node} {fuel : Nat}

/-- A walk that ends, ends in the same way if it may be longer. -/
theorem descendantsWithin_succ_of_some {nodes : List Node}
    (walked : snapshot.descendantsWithin fuel top = some nodes) :
    snapshot.descendantsWithin (fuel + 1) top = some nodes := by
  induction fuel generalizing top nodes with
  | zero => cases walked
  | succ fuel ih =>
      rw [← walked, descendantsWithin_succ, descendantsWithin_succ]
      refine congrArg (Option.map List.flatten) (mapM_congr ?_)
      intro child member
      obtain ⟨lower, walkedLower⟩ := exists_walk_of_mem walked member
      rw [walkedLower, ih walkedLower]

/-- A walk down from a node that is below itself never ends. -/
theorem descendantsWithin_of_loop (loop : snapshot.Below top top) :
    snapshot.descendantsWithin fuel top = none := by
  induction fuel generalizing top with
  | zero => rfl
  | succ fuel ih =>
      obtain ⟨child, member, back⟩ := Below.iff_child.mp loop
      have childLoop : snapshot.Below child child := by
        rcases back with rfl | back
        · exact loop
        · exact back.deeper member
      cases walked : snapshot.descendantsWithin (fuel + 1) top with
      | none => rfl
      | some nodes =>
          obtain ⟨lower, walkedLower⟩ := exists_walk_of_mem walked member
          rw [ih childLoop] at walkedLower
          cases walkedLower

end Snapshot

namespace Document

/-- The larger document is the document with one node put in. -/
def Inserts (document : Document) (node : Node) (larger : Document) : Prop :=
  ∃ front back, document.entries = front ++ back ∧
    larger.entries = front ++ (node.id, node) :: back

variable {document larger : Document} {node other : Node} {id : Text}

namespace Inserts

variable (inserts : document.Inserts node larger)
include inserts

theorem size_eq : larger.size = document.size + 1 := by
  obtain ⟨front, back, smaller, isLarger⟩ := inserts
  simp only [Table.size, smaller, isLarger, List.length_append, List.length_cons]
  omega

theorem mem_entries {entry : Text × Node} :
    entry ∈ larger.entries ↔ entry = (node.id, node) ∨ entry ∈ document.entries := by
  obtain ⟨front, back, smaller, isLarger⟩ := inserts
  rw [smaller, isLarger]
  simp only [List.mem_append, List.mem_cons]
  tauto

theorem values_eq : ∃ front back, document.values = front ++ back ∧
    larger.values = front ++ node :: back := by
  obtain ⟨front, back, smaller, isLarger⟩ := inserts
  exact ⟨front.map Prod.snd, back.map Prod.snd, by simp [Table.values, smaller],
    by simp [Table.values, isLarger]⟩

theorem mem_values : other ∈ larger.values ↔ other = node ∨ other ∈ document.values := by
  obtain ⟨front, back, smaller, isLarger⟩ := inserts.values_eq
  rw [smaller, isLarger]
  simp only [List.mem_append, List.mem_cons]
  tauto

/-- The id of the new node is new. -/
theorem fresh : document.get? node.id = none := by
  obtain ⟨front, back, smaller, isLarger⟩ := inserts
  have distinct := larger.distinct
  rw [isLarger, List.map_append, List.map_cons, List.nodup_middle, List.nodup_cons] at distinct
  rw [Table.get?_eq_none_iff, Table.keys, smaller, List.map_append]
  exact distinct.1

theorem get?_of_ne (differs : id ≠ node.id) : larger.get? id = document.get? id := by
  refine Option.ext fun found => ?_
  rw [← Table.mem_entries_iff, ← Table.mem_entries_iff, inserts.mem_entries]
  simp [differs]

theorem ne_of_get? (found : document.get? id = some other) : id ≠ node.id := by
  rintro rfl
  rw [inserts.fresh] at found
  cases found

theorem node_of_ne (differs : id ≠ node.id) : larger.node id = document.node id := by
  rw [Document.node, Document.node, inserts.get?_of_ne differs]

theorem keyed (isKeyed : document.Keyed) : larger.Keyed := by
  intro entry member
  rcases inserts.mem_entries.mp member with rfl | old
  · rfl
  · exact isKeyed entry old

theorem named?_of_ne {name : Text} (differs : name ≠ node.name) :
    larger.snapshot.named? name = document.snapshot.named? name := by
  obtain ⟨front, back, smaller, isLarger⟩ := inserts.values_eq
  simp only [Snapshot.named?, Document.snapshot, smaller, isLarger, List.find?_append,
    List.find?_cons, decide_eq_false (Ne.symm differs)]

theorem filter_eq {keep : Node → Bool} (dropped : keep node = false) :
    larger.snapshot.nodes.filter keep = document.snapshot.nodes.filter keep := by
  obtain ⟨front, back, smaller, isLarger⟩ := inserts.values_eq
  simp [Document.snapshot, smaller, isLarger, dropped]

variable {top : Node}

/-- A node keeps its children unless the new one is among them. -/
theorem children_eq (apart : node ∉ larger.snapshot.childList top) :
    larger.snapshot.children top = document.snapshot.children top := by
  have inside : node ∈ larger.snapshot.nodes := inserts.mem_values.mpr (.inl rfl)
  by_cases placed : node.parentId = some top.id
  · -- The new node is placed below a page, outside of its content slot.
    have hidden : top.isPage = true ∧ node.slot ≠ Node.contentSlot := by
      simpa [Snapshot.mem_childList, inside, placed] using apart
    have same : larger.snapshot.childrenIn top.id Node.contentSlot =
        document.snapshot.childrenIn top.id Node.contentSlot := by
      rw [Snapshot.childrenIn, Snapshot.childrenIn, Snapshot.placedBelow, Snapshot.placedBelow,
        List.filter_filter, List.filter_filter, inserts.filter_eq (by simp [hidden.2])]
    rw [Snapshot.children, Snapshot.children, if_pos hidden.1, if_pos hidden.1, same]
  · have same : larger.snapshot.placedBelow top.id = document.snapshot.placedBelow top.id :=
      inserts.filter_eq (by simp [placed])
    simp only [Snapshot.children, Snapshot.childrenIn, Snapshot.slots, same]

theorem childList_eq (apart : ¬ larger.snapshot.Below top node) :
    larger.snapshot.childList top = document.snapshot.childList top := by
  rw [Snapshot.childList, inserts.children_eq fun member => apart (.child member),
    Snapshot.childList]

theorem descendantsWithin_eq (apart : ¬ larger.snapshot.Below top node) (fuel : Nat) :
    larger.snapshot.descendantsWithin fuel top = document.snapshot.descendantsWithin fuel top := by
  induction fuel generalizing top with
  | zero => rfl
  | succ fuel ih =>
      rw [Snapshot.descendantsWithin_succ, Snapshot.descendantsWithin_succ,
        inserts.childList_eq apart]
      refine congrArg (Option.map List.flatten) (mapM_congr ?_)
      intro child member
      rw [ih]
      intro below
      rw [← inserts.childList_eq apart] at member
      exact apart ((Snapshot.Below.child member).trans below)

/-- The nodes below a node stay the same, in the same order. -/
theorem descendants?_eq (isKeyed : document.Keyed) (member : top ∈ document.values)
    (apart : ¬ larger.snapshot.Below top node) :
    larger.snapshot.descendants? top = document.snapshot.descendants? top := by
  have deeper : larger.snapshot.depthBound = document.snapshot.depthBound + 1 := by
    have size := inserts.size_eq
    simp only [Table.size] at size
    simp only [Snapshot.depthBound, Document.snapshot, Table.values, List.length_map]
    omega
  rw [Snapshot.descendants?, inserts.descendantsWithin_eq apart, deeper]
  by_cases loop : document.snapshot.Below top top
  · rw [Snapshot.descendants?, Snapshot.descendantsWithin_of_loop loop,
      Snapshot.descendantsWithin_of_loop loop]
  · obtain ⟨nodes, walked⟩ := Snapshot.exists_descendants isKeyed.distinctIds member loop
    rw [walked]
    exact Snapshot.descendantsWithin_succ_of_some walked

end Inserts

end Document

end PageCompiler
