/-
  The order of siblings.

  Indexes are compared as texts, a node without one comes after all others, and nodes of one index keep
  the order of the document. This is a linear preorder, and the order of a slot is its stable sort, so
  which of two siblings comes first can be read off the document (`Document.Precedes`).
-/
import Mathlib.Data.List.Sort
import PageCompiler.Proofs.Descent
import PageCompiler.Proofs.StringLiterals

namespace PageCompiler

namespace CodePoint

theorem code_injective : Function.Injective code :=
  Function.LeftInverse.injective ofCode_code

instance : Std.Asymm fun left right : CodePoint => left < right :=
  ⟨fun _ _ => Nat.lt_asymm⟩

instance : Std.Trichotomous fun left right : CodePoint => left < right :=
  ⟨fun _ _ noLess noMore =>
    code_injective (Nat.le_antisymm (Nat.not_lt.mp noMore) (Nat.not_lt.mp noLess))⟩

instance : Trans (fun left right : CodePoint => ¬ left < right)
    (fun left right : CodePoint => ¬ left < right)
    (fun left right : CodePoint => ¬ left < right) :=
  ⟨fun first second =>
    Nat.not_lt.mpr (Nat.le_trans (Nat.not_lt.mp second) (Nat.not_lt.mp first))⟩

end CodePoint

theorem Text.le_trans {first second third : Text} (lower : first ≤ second)
    (upper : second ≤ third) : first ≤ third := by
  let _ : LE CodePoint := .ofLT CodePoint
  have _ : Std.IsLinearOrder CodePoint := .of_lt
  exact List.le_trans lower upper

theorem indexLe_total (left right : Option Text) :
    indexLe left right = true ∨ indexLe right left = true := by
  cases left with
  | none => exact .inr rfl
  | some left =>
      cases right with
      | none => exact .inl rfl
      | some right => exact (List.le_total left right).imp decide_eq_true decide_eq_true

theorem indexLe_trans {first second third : Option Text} (lower : indexLe first second = true)
    (upper : indexLe second third = true) : indexLe first third = true := by
  match first, second, third with
  | _, _, none => rfl
  | _, none, some _ => cases upper
  | none, some _, some _ => cases lower
  | some _, some _, some _ =>
      exact decide_eq_true (Text.le_trans (of_decide_eq_true lower) (of_decide_eq_true upper))

/-- The place of a node is not after the place of another one. -/
def IndexLe (node other : Node) : Prop := indexLe node.parentIndex other.parentIndex = true

instance : DecidableRel IndexLe := fun _ _ => inferInstanceAs (Decidable (_ = true))

instance : Std.Total IndexLe := ⟨fun _ _ => indexLe_total _ _⟩

instance : IsTrans Node IndexLe := ⟨fun _ _ _ => indexLe_trans⟩

theorem sortByIndex_eq (nodes : List Node) : sortByIndex nodes = nodes.insertionSort IndexLe := by
  have insert_eq : ∀ node nodes,
      insertByIndex node nodes = List.orderedInsert IndexLe node nodes := by
    intro node nodes
    induction nodes with
    | nil => rfl
    | cons next rest ih =>
        rw [insertByIndex, List.orderedInsert, ih]
        rfl
  induction nodes with
  | nil => rfl
  | cons node rest ih =>
      rw [List.insertionSort_cons, ← ih, ← insert_eq]
      rfl

/-- The first of two siblings: the one with the smaller index, the one that has an index, or else
    the one that stands earlier in the document. -/
inductive Document.Precedes (document : Document) (node later : Node) : Prop
  | smaller {index other : Text} : node.parentIndex = some index →
      later.parentIndex = some other → index < other → Precedes document node later
  | indexed {index : Text} : node.parentIndex = some index → later.parentIndex = none →
      Precedes document node later
  | earlier : node.parentIndex = later.parentIndex → [node, later].Sublist document.values →
      Precedes document node later

/-- In a sorted list the one of two members that is not after the other stands first. -/
theorem pair_sublist_of_pairwise {nodes : List Node} {node later : Node}
    (sorted : nodes.Pairwise IndexLe) (member : node ∈ nodes) (laterMember : later ∈ nodes)
    (less : ¬ IndexLe later node) : [node, later].Sublist nodes := by
  obtain ⟨front, back, rfl⟩ := List.append_of_mem member
  have behind : later ∈ back := by
    rcases List.mem_append.mp laterMember with inFront | rest
    · exact absurd ((List.pairwise_append.mp sorted).2.2 later inFront node List.mem_cons_self) less
    · rcases List.mem_cons.mp rest with rfl | inBack
      · exact absurd ((Std.Total.total later later).elim id id) less
      · exact inBack
  exact ((List.singleton_sublist.mpr behind).cons_cons node).trans (List.sublist_append_right _ _)

variable {document : Document} {parentId slot : Text} {node later : Node}

/-- The children of a slot are listed in the order of siblings. -/
theorem Document.Precedes.sublist_childrenIn (precedes : document.Precedes node later)
    (member : node ∈ document.snapshot.childrenIn parentId slot)
    (laterMember : later ∈ document.snapshot.childrenIn parentId slot) :
    [node, later].Sublist (document.snapshot.childrenIn parentId slot) := by
  have sorted : (document.snapshot.childrenIn parentId slot).Pairwise IndexLe := by
    rw [Snapshot.childrenIn, sortByIndex_eq]
    exact List.pairwise_insertionSort IndexLe _
  cases precedes with
  | smaller isIndex isOther less =>
      refine pair_sublist_of_pairwise sorted member laterMember fun notAfter => ?_
      rw [IndexLe, isIndex, isOther] at notAfter
      exact absurd less (List.not_lt.mpr (of_decide_eq_true notAfter))
  | indexed isIndex isNone =>
      refine pair_sublist_of_pairwise sorted member laterMember fun notAfter => ?_
      rw [IndexLe, isIndex, isNone] at notAfter
      cases notAfter
  | earlier same inDocument =>
      have notAfter : IndexLe node later := by
        rw [IndexLe, same]
        exact (indexLe_total _ _).elim id id
      rw [Snapshot.mem_childrenIn, Snapshot.mem_placedBelow] at member laterMember
      have kept := (inDocument.filter (·.parentId = some parentId)).filter (·.slot = slot)
      simp only [List.filter_cons, List.filter_nil, member.1.2, member.2, laterMember.1.2,
        laterMember.2, decide_true, if_true] at kept
      rw [Snapshot.childrenIn, sortByIndex_eq]
      exact List.pair_sublist_insertionSort notAfter kept

end PageCompiler
