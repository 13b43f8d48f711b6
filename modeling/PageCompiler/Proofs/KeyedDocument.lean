/-
  Documents whose keys are the ids of their nodes, which every checked document is. In such a document
  an id stands for one node, and the first node with a name is found by its id again.
-/
import Mathlib.Data.List.Nodup
import PageCompiler.Compilation.Tables
import PageCompiler.Document.Loading
import PageCompiler.Proofs.TableLaws

namespace PageCompiler

namespace Document

/-- Every node is stored under its id. -/
def Keyed (document : Document) : Prop := ∀ entry ∈ document.entries, entry.1 = entry.2.id

instance (document : Document) : Decidable document.Keyed :=
  inferInstanceAs (Decidable (∀ entry ∈ document.entries, entry.1 = entry.2.id))

theorem keyed_of_checkKeys {source : Json} {document checked : Document}
    (accepted : checkKeys source document = .accepted checked) : checked.Keyed := by
  unfold checkKeys at accepted
  split at accepted
  · cases accepted
  · next misplaced =>
      cases accepted
      intro entry member
      simpa using List.find?_eq_none.mp misplaced entry member

theorem keyed_of_check {origin : Origin} {value : Json} {document : Document}
    (accepted : check origin value = .accepted document) : document.Keyed := by
  unfold check Checked.andThen at accepted
  split at accepted
  · exact keyed_of_checkKeys accepted
  · cases accepted
  · cases accepted

variable {document : Document} {node other : Node} {id : Text}

theorem Keyed.id_eq (keyed : document.Keyed) (found : document.get? id = some node) :
    node.id = id :=
  (keyed (id, node) (Table.mem_entries_iff.mpr found)).symm

theorem Keyed.get?_id (keyed : document.Keyed) (member : node ∈ document.values) :
    document.get? node.id = some node := by
  obtain ⟨key, found⟩ := Table.mem_values_iff.mp member
  rw [keyed.id_eq found]
  exact found

theorem Keyed.eq_of_id_eq (keyed : document.Keyed) (member : node ∈ document.values)
    (otherMember : other ∈ document.values) (same : node.id = other.id) : node = other := by
  have found := keyed.get?_id member
  rw [same, keyed.get?_id otherMember] at found
  exact (Option.some.inj found).symm

theorem Keyed.values_nodup (keyed : document.Keyed) : document.values.Nodup := by
  refine List.Nodup.of_map Node.id ?_
  have sameKeys : document.values.map Node.id = document.keys := by
    rw [Table.values, Table.keys, List.map_map]
    exact List.map_congr_left fun entry member => (keyed entry member).symm
  rw [sameKeys]
  exact document.distinct

end Document

namespace Snapshot

/-- The first node with a name. -/
def named? (snapshot : Snapshot) (name : Text) : Option Node :=
  snapshot.nodes.find? (·.name = name)

theorem idOfName?_eq (snapshot : Snapshot) (name : Text) :
    snapshot.idOfName? name = (snapshot.named? name).map (·.id) :=
  rfl

theorem mem_of_named? {snapshot : Snapshot} {name : Text} {node : Node}
    (found : snapshot.named? name = some node) : node ∈ snapshot.nodes :=
  List.mem_of_find?_eq_some found

end Snapshot

end PageCompiler
