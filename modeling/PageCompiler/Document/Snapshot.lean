/-
  Snapshots: the nodes of a document at one moment, found by name and by place.

  The children of a node are grouped by slot, slots in the order of their first child, and ordered
  by their index within a slot; children without an index come last. Walking down from a node that
  is below itself would never end, and gives no answer.
-/
import PageCompiler.Document.Basic

namespace PageCompiler

structure Snapshot where
  nodes : List Node

def Document.snapshot (document : Document) : Snapshot := ⟨document.values⟩

/-- The order of places in a slot. -/
def indexLe : Option Text → Option Text → Bool
  | _, none => true
  | none, some _ => false
  | some left, some right => left ≤ right

/-- Puts a node in front of the first one whose place is not before its own. -/
def insertByIndex (node : Node) : List Node → List Node
  | [] => [node]
  | next :: rest =>
      if indexLe node.parentIndex next.parentIndex then node :: next :: rest
      else next :: insertByIndex node rest

/-- Orders nodes by place; nodes with the same place keep their order. -/
def sortByIndex (nodes : List Node) : List Node := nodes.foldr insertByIndex []

namespace Snapshot

/-- The id of the first node with a name. -/
def idOfName? (snapshot : Snapshot) (name : Text) : Option Text :=
  (snapshot.nodes.find? (·.name = name)).map (·.id)

/-- The nodes placed below a parent, in document order. -/
def placedBelow (snapshot : Snapshot) (parentId : Text) : List Node :=
  snapshot.nodes.filter (·.parentId = some parentId)

/-- The slots of a parent that hold a child. -/
def slots (snapshot : Snapshot) (parentId : Text) : List Text :=
  ((snapshot.placedBelow parentId).map Node.slot).eraseDups

def childrenIn (snapshot : Snapshot) (parentId slot : Text) : List Node :=
  sortByIndex ((snapshot.placedBelow parentId).filter (·.slot = slot))

/-- The children of a node by slot. A page has its content slot only, and always has that. -/
def children (snapshot : Snapshot) (node : Node) : List (Text × List Node) :=
  if node.isPage then [(Node.contentSlot, snapshot.childrenIn node.id Node.contentSlot)]
  else (snapshot.slots node.id).map fun slot => (slot, snapshot.childrenIn node.id slot)

/-- The children of a node, slot after slot. -/
def childList (snapshot : Snapshot) (node : Node) : List Node :=
  (snapshot.children node).flatMap Prod.snd

/-- The nodes below a node, each before those below it, down to a depth of less than `fuel`. -/
def descendantsWithin (snapshot : Snapshot) : Nat → Node → Option (List Node)
  | 0, _ => none
  | fuel + 1, node => do
      let subtrees ← (snapshot.childList node).mapM fun child =>
        (snapshot.descendantsWithin fuel child).map (child :: ·)
      return subtrees.flatten

/-- More than the length of any path down that meets no node twice. -/
def depthBound (snapshot : Snapshot) : Nat := snapshot.nodes.length + 2

/-- All nodes below a node, or nothing if a node below it is below itself. -/
def descendants? (snapshot : Snapshot) (node : Node) : Option (List Node) :=
  snapshot.descendantsWithin snapshot.depthBound node

end Snapshot

end PageCompiler
