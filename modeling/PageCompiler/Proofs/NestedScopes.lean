/-
  Nested scopes in use: names are handed out and scopes opened inside others, in any order.

  `Grown` says once what can happen to a tree of scopes, and keeps a record of it. Which names are
  free in a scope is read off this record alone (`IsFree`): a name must differ from those handed out
  in the scope and in the scopes around it. `CandidateSearch` is the search for a free candidate
  without any bound. It ends because candidates are distinct and only finitely many names are
  recorded or reserved (`exists_isFree_candidate`).

  A name is free at the moment when it is handed out. A scope further out may still take the same
  name later.
-/
import Mathlib.Logic.Relation
import PageCompiler.Proofs.FreshName

namespace PageCompiler

/-- What happens to nested scopes: a name is handed out, or a scope is opened inside another. -/
inductive ScopeEvent where
  | named (scope : Nat) (name : Text)
  | opened (outer inner : Nat)
deriving DecidableEq

def ScopeEvent.name? : ScopeEvent → Option Text
  | .named _ name => some name
  | .opened _ _ => none

/-- Candidates are tried from the number `first` on, and the one with the number `last` is the first
    that is free. Nothing bounds the numbers that are tried. -/
inductive CandidateSearch (free : Text → Prop) (base : Text) : Nat → Nat → Prop
  | hit {number : Nat} : free (candidateName base number) →
      CandidateSearch free base number number
  | miss {number last : Nat} : ¬ free (candidateName base number) →
      CandidateSearch free base (number + 1) last → CandidateSearch free base number last

namespace ScopeTree

/-- The trees that grow out of one scope, each with the record of what happened to it. -/
inductive Grown : List ScopeEvent → ScopeTree → Prop
  | root : Grown [] root
  | named {past : List ScopeEvent} {tree : ScopeTree} {scope : Nat} (suggestion : Text) :
      Grown past tree → scope < tree.scopes.length →
      Grown (past ++ [.named scope (tree.allocate scope suggestion).1])
        (tree.allocate scope suggestion).2
  | opened {past : List ScopeEvent} {tree : ScopeTree} {scope : Nat} :
      Grown past tree → scope < tree.scopes.length →
      Grown (past ++ [.opened scope (tree.addChild scope).1]) (tree.addChild scope).2

/-- One scope was opened in the other. -/
def Inside (past : List ScopeEvent) (inner outer : Nat) : Prop := .opened outer inner ∈ past

/-- The scopes around a scope, itself included. -/
abbrev Within (past : List ScopeEvent) : Nat → Nat → Prop := Relation.ReflTransGen (Inside past)

/-- The name is not reserved, and it was handed out neither in the scope nor in one around it. -/
def IsFree (past : List ScopeEvent) (scope : Nat) (name : Text) : Prop :=
  Identifier.isReserved name = false ∧
    ∀ outer, Within past scope outer → .named outer name ∉ past

end ScopeTree

/-! ## The search -/

theorem CandidateSearch.of_least {free : Text → Prop} {base : Text} {first last : Nat}
    (reaches : first ≤ last) (isFree : free (candidateName base last))
    (misses : ∀ number, first ≤ number → number < last → ¬ free (candidateName base number)) :
    CandidateSearch free base first last := by
  -- Induction on the number of misses, with the first candidate moving on.
  obtain ⟨steps, rfl⟩ := Nat.exists_eq_add_of_le reaches
  induction steps generalizing first with
  | zero => exact .hit isFree
  | succ steps ih =>
      have shifted : first + 1 + steps = first + (steps + 1) := by omega
      rw [← shifted] at isFree misses ⊢
      refine .miss (misses first (Nat.le_refl first) (by omega)) ?_
      exact ih (Nat.le_add_right _ _) isFree fun number above => misses number (by omega)

namespace ScopeTree

variable {past : List ScopeEvent} {tree : ScopeTree} {scope other outer : Nat} {name : Text}

/-- Of all candidates, one of the first is free: no more are taken than there are events and
    reserved words. -/
theorem exists_isFree_candidate (past : List ScopeEvent) (scope : Nat) (base : Text) :
    ∃ number ≤ past.length + Identifier.reservedWords.length,
      IsFree past scope (candidateName base number) := by
  obtain ⟨number, inRange, free⟩ := exists_free_candidate (past.filterMap ScopeEvent.name?) base
  obtain ⟨notReserved, notGiven⟩ := isFreeName_iff.mp free
  have few := List.length_filterMap_le ScopeEvent.name? past
  rw [List.mem_range] at inRange
  refine ⟨number, by omega, notReserved, fun outer _ given => notGiven ?_⟩
  exact List.mem_filterMap.mpr ⟨_, given, rfl⟩

/-! ## What one event does -/

theorem names_allocate (known : scope < tree.scopes.length) (suggestion : Text) :
    (tree.allocate scope suggestion).2.names scope =
      tree.names scope ++ [(tree.allocate scope suggestion).1] := by
  simp [allocate, names, known]

theorem names_allocate_of_ne (apart : other ≠ scope) (suggestion : Text) :
    (tree.allocate scope suggestion).2.names other = tree.names other := by
  simp [allocate, names, apart.symm]

theorem enclosing_allocate (tree : ScopeTree) (scope other : Nat) (suggestion : Text) :
    (tree.allocate scope suggestion).2.enclosing other = tree.enclosing other := by
  simp only [allocate, enclosing, List.getElem?_modify]
  cases tree.scopes[other]? with
  | none => rfl
  | some found => by_cases same : scope = other <;> simp [same]

theorem size_allocate (tree : ScopeTree) (scope : Nat) (suggestion : Text) :
    (tree.allocate scope suggestion).2.scopes.length = tree.scopes.length := by
  simp [allocate]

theorem size_addChild (tree : ScopeTree) (scope : Nat) :
    (tree.addChild scope).2.scopes.length = tree.scopes.length + 1 := by
  simp [addChild]

theorem scopes_addChild (tree : ScopeTree) (scope other : Nat) :
    (tree.addChild scope).2.scopes[other]? =
      if other = tree.scopes.length then some ⟨scope :: tree.enclosing scope, []⟩
      else tree.scopes[other]? := by
  rcases Nat.lt_trichotomy other tree.scopes.length with old | rfl | beyond
  · simp [addChild, List.getElem?_append_left old, Nat.ne_of_lt old]
  · simp [addChild]
  · have outside : (tree.addChild scope).2.scopes.length ≤ other := by
      rw [size_addChild]
      exact beyond
    rw [if_neg (Nat.ne_of_gt beyond), List.getElem?_eq_none outside,
      List.getElem?_eq_none (Nat.le_of_lt beyond)]

theorem names_addChild (tree : ScopeTree) (scope other : Nat) :
    (tree.addChild scope).2.names other = tree.names other := by
  unfold names
  rw [scopes_addChild]
  split_ifs with isNew
  · simp [isNew]
  · rfl

theorem enclosing_addChild (tree : ScopeTree) (scope other : Nat) :
    (tree.addChild scope).2.enclosing other =
      if other = tree.scopes.length then scope :: tree.enclosing scope
      else tree.enclosing other := by
  rw [enclosing, scopes_addChild]
  split_ifs <;> rfl

/-! ## What a tree knows of its past -/

/-- The names of a scope are those handed out in it, and the scopes around it are those that it was
    opened in, directly or not. A scope is opened after the one around it. -/
structure Tracks (past : List ScopeEvent) (tree : ScopeTree) : Prop where
  names : ∀ {scope name}, name ∈ tree.names scope ↔ .named scope name ∈ past
  around : ∀ {scope outer}, outer ∈ scope :: tree.enclosing scope ↔ Within past scope outer
  older : ∀ {inner outer}, Inside past inner outer → outer < inner ∧ inner < tree.scopes.length

theorem tracks_root : Tracks [] root where
  names := by
    intro scope name
    cases scope <;> simp [ScopeTree.names, root]
  around := by
    intro scope outer
    have alone : root.enclosing scope = [] := by cases scope <;> rfl
    rw [alone, List.mem_singleton]
    constructor
    · rintro rfl
      exact .refl
    · intro within
      cases within.cases_head with
      | inl same => exact same.symm
      | inr step =>
          obtain ⟨_, inside, _⟩ := step
          cases inside
  older := by
    intro inner outer inside
    cases inside

theorem inside_named : Inside (past ++ [.named scope name]) = Inside past := by
  funext inner outer
  simp [Inside]

theorem Tracks.named (tracks : Tracks past tree) (known : scope < tree.scopes.length)
    (suggestion : Text) :
    Tracks (past ++ [.named scope (tree.allocate scope suggestion).1])
      (tree.allocate scope suggestion).2 where
  names := by
    intro other name
    by_cases same : other = scope
    · subst same
      rw [names_allocate known, List.mem_append, tracks.names]
      simp
    · rw [names_allocate_of_ne same, tracks.names]
      simp [same]
  around := by
    intro other outer
    rw [enclosing_allocate, Within, inside_named]
    exact tracks.around
  older := by
    intro inner outer inside
    rw [inside_named] at inside
    rw [size_allocate]
    exact tracks.older inside

theorem inside_opened {inner new : Nat} :
    Inside (past ++ [.opened scope new]) inner outer ↔
      Inside past inner outer ∨ outer = scope ∧ inner = new := by
  simp [Inside]

/-- What is around a scope does not change when another one is opened. -/
theorem Tracks.within_opened_iff (tracks : Tracks past tree)
    (isOld : other ≠ tree.scopes.length) :
    Within (past ++ [.opened scope tree.scopes.length]) other outer ↔ Within past other outer := by
  constructor
  -- The way out of an old scope leads to older ones only, so it never meets the new scope.
  · intro within
    induction within using Relation.ReflTransGen.head_induction_on with
    | refl => exact .refl
    | head step _ ih =>
        rcases inside_opened.mp step with inside | ⟨_, isNew⟩
        · have ordered := tracks.older inside
          exact .head inside (ih (by omega))
        · exact absurd isNew isOld
  · have kept : Inside past ≤ Inside (past ++ [.opened scope tree.scopes.length]) :=
      fun _ _ inside => inside_opened.mpr (.inl inside)
    exact Relation.ReflTransGen.mono kept other outer

/-- Around a new scope are the scope it was opened in and what is around that one. -/
theorem Tracks.within_new_iff (tracks : Tracks past tree) (known : scope < tree.scopes.length) :
    Within (past ++ [.opened scope tree.scopes.length]) tree.scopes.length outer ↔
      outer = tree.scopes.length ∨ Within past scope outer := by
  have isOld : scope ≠ tree.scopes.length := Nat.ne_of_lt known
  constructor
  · intro within
    rcases within.cases_head with same | ⟨next, step, rest⟩
    · exact .inl same.symm
    · rcases inside_opened.mp step with inside | ⟨rfl, _⟩
      · exact absurd (tracks.older inside).2 (Nat.lt_irrefl _)
      · exact .inr ((tracks.within_opened_iff isOld).mp rest)
  · rintro (rfl | within)
    · exact .refl
    · exact .head (inside_opened.mpr (.inr ⟨rfl, rfl⟩))
        ((tracks.within_opened_iff isOld).mpr within)

theorem Tracks.opened (tracks : Tracks past tree) (known : scope < tree.scopes.length) :
    Tracks (past ++ [.opened scope (tree.addChild scope).1]) (tree.addChild scope).2 where
  names := by
    intro other name
    rw [names_addChild, tracks.names]
    simp
  around := by
    intro other outer
    show _ ↔ Within (past ++ [.opened scope tree.scopes.length]) other outer
    by_cases isNew : other = tree.scopes.length
    · subst isNew
      rw [enclosing_addChild, if_pos rfl, tracks.within_new_iff known, List.mem_cons, tracks.around]
    · rw [enclosing_addChild, if_neg isNew, tracks.within_opened_iff isNew, tracks.around]
  older := by
    intro inner outer inside
    rw [size_addChild]
    rcases inside_opened.mp inside with before | ⟨rfl, rfl⟩
    · have ordered := tracks.older before
      omega
    · exact ⟨known, Nat.lt_succ_self _⟩

theorem Grown.tracks (grown : Grown past tree) : Tracks past tree := by
  induction grown with
  | root => exact tracks_root
  | named suggestion _ known ih => exact ih.named known suggestion
  | opened _ known ih => exact ih.opened known

/-! ## The name that is handed out -/

theorem Tracks.isTaken_iff (tracks : Tracks past tree) :
    tree.isTaken scope name = true ↔
      ∃ outer, Within past scope outer ∧ .named outer name ∈ past := by
  simp only [isTaken, visible, List.contains_iff_mem, List.mem_flatMap, tracks.around, tracks.names]

theorem Tracks.isFreeName_iff_isFree (tracks : Tracks past tree) :
    isFreeName (tree.visible scope) name = true ↔ IsFree past scope name := by
  have taken : name ∈ tree.visible scope ↔ tree.isTaken scope name = true := by
    rw [isTaken, List.contains_iff_mem]
  rw [isFreeName_iff, taken, tracks.isTaken_iff, IsFree]
  simp only [not_exists, not_and]

/-- The free candidate with the least number is handed out. -/
theorem Tracks.exists_least_number (tracks : Tracks past tree) (scope : Nat) (suggestion : Text) :
    let candidate := candidateName (Identifier.sanitize suggestion)
    ∃ number ≤ past.length + Identifier.reservedWords.length,
      (tree.allocate scope suggestion).1 = candidate number ∧ IsFree past scope (candidate number) ∧
      ∀ less < number, ¬ IsFree past scope (candidate less) := by
  intro candidate
  obtain ⟨number, isName, free, least⟩ := exists_least_candidate (tree.visible scope) suggestion
  have taken : ∀ less < number, ¬ IsFree past scope (candidate less) := by
    intro less isLess
    rw [← tracks.isFreeName_iff_isFree, least less isLess]
    exact Bool.false_ne_true
  refine ⟨number, ?_, isName, tracks.isFreeName_iff_isFree.mp free, taken⟩
  obtain ⟨found, inBound, isFree⟩ :=
    exists_isFree_candidate past scope (Identifier.sanitize suggestion)
  refine Nat.le_trans (Nat.le_of_not_lt fun isLess => ?_) inBound
  exact taken found isLess isFree

/-- A name that is handed out in a scope of a tree, whatever happened before. The search for it
    ends, and so does the way out of the scope along which each candidate is tested. The name is the
    plain identifier of the suggestion, or else that identifier with the least number that makes it
    free. The scope gets this one name, and no other scope changes. -/
theorem allocate_least (grown : Grown past tree) (known : scope < tree.scopes.length)
    (suggestion : Text) :
    let base := Identifier.sanitize suggestion
    let free := IsFree past scope
    (∀ other bound, bound ∈ tree.names other ↔ .named other bound ∈ past) ∧
    (∀ inner outer, Inside past inner outer → outer < inner) ∧
    ∃ name after, tree.allocate scope suggestion = (name, after) ∧
      (∃ last ≤ past.length + Identifier.reservedWords.length,
        CandidateSearch free base 0 last ∧ name = candidateName base last) ∧
      free name ∧ (free base → name = base) ∧
      (¬ free base → ∃ number ≥ 1, name = base ++ Text.ofNat number ∧
        ∀ less ≥ 1, less < number → ¬ free (base ++ Text.ofNat less)) ∧
      Identifier.IsValid name ∧
      name ∉ tree.names scope ∧ after.names scope = tree.names scope ++ [name] ∧
      ∀ other ≠ scope, after.names other = tree.names other := by
  intro base free
  have tracks := grown.tracks
  refine ⟨fun _ _ => tracks.names, fun _ _ inside => (tracks.older inside).1,
    (tree.allocate scope suggestion).1, (tree.allocate scope suggestion).2, rfl, ?_⟩
  obtain ⟨number, inBound, isName, isFree, least⟩ := tracks.exists_least_number scope suggestion
  have nameFree : free (tree.allocate scope suggestion).1 := isName ▸ isFree
  refine ⟨⟨number, inBound, ?_, isName⟩, nameFree, ?_, ?_, isValid_freshName _ _,
    fun member => nameFree.2 scope .refl (tracks.names.mp member),
    names_allocate known suggestion, fun _ apart => names_allocate_of_ne apart suggestion⟩
  · exact .of_least (Nat.zero_le number) isFree fun less _ => least less
  · intro baseFree
    rcases Nat.eq_zero_or_pos number with rfl | positive
    · exact isName
    · exact absurd baseFree (least 0 positive)
  · intro baseTaken
    cases number with
    | zero => exact absurd isFree baseTaken
    | succ number =>
        refine ⟨number + 1, Nat.le_add_left 1 number, isName, ?_⟩
        intro less positive isLess
        obtain ⟨before, rfl⟩ := Nat.exists_eq_add_of_le' positive
        exact least (before + 1) isLess

end ScopeTree

namespace Drawers

def past : List ScopeEvent := [.named 0 "value1", .named 0 "value", .opened 0 1]

/-- A scope inside another one, of whose names one already ends in a number. -/
def tree : ScopeTree := ⟨[⟨[], ["value1", "value"]⟩, ⟨[0], []⟩]⟩

theorem grown : ScopeTree.Grown past tree := by
  have isTree : (((ScopeTree.root.allocate 0 "value1").2.allocate 0 "value").2.addChild 0).2 =
      tree := by decide +kernel
  have isPast : [.named 0 (ScopeTree.root.allocate 0 "value1").1,
      .named 0 ((ScopeTree.root.allocate 0 "value1").2.allocate 0 "value").1, .opened 0 1] =
        past := by decide +kernel
  rw [← isTree, ← isPast]
  exact .opened (.named "value" (.named "value1" .root (by decide)) (by decide)) (by decide)

end Drawers

namespace ScopeTree

theorem allocate_least_nested : Grown Drawers.past Drawers.tree ∧ 1 < Drawers.tree.scopes.length ∧
    ¬ IsFree Drawers.past 1 "value" ∧ IsFree Drawers.past 1 "value2" ∧
    ∃ after, Drawers.tree.allocate 1 "value" = (Text.ofString "value2", after) ∧
      after.names 1 = ["value2"] ∧ after.names 0 = Drawers.tree.names 0 := by
  have around : Within Drawers.past 1 0 := .single (by simp [Inside, Drawers.past])
  have taken : ¬ IsFree Drawers.past 1 "value" :=
    fun free => free.2 0 around (by simp [Drawers.past])
  have isInner : 1 < Drawers.tree.scopes.length := by decide
  obtain ⟨_, _, name, after, allocated, _, free, _, _, _, _, gained, others⟩ :=
    allocate_least Drawers.grown isInner "value"
  have isName : (Drawers.tree.allocate 1 "value").1 = "value2" := by decide +kernel
  rw [allocated] at isName
  subst isName
  exact ⟨Drawers.grown, isInner, taken, free, after, allocated, gained, others 0 (by decide)⟩

-- A scope further out may take the name of an inner one later.
example :
    let (inner, tree) := (root.addChild 0).2.allocate 1 "label"
    (tree.allocate 0 "label").1 = inner := by
  decide +kernel

end ScopeTree

/-- The scope of a module is a tree without inner scopes. -/
theorem Scope.allocate_eq_outermost (scope : Scope) (suggestion : Text) :
    ScopeTree.allocate ⟨[⟨[], scope.names⟩]⟩ 0 suggestion =
      ((scope.allocate suggestion).1, ⟨[⟨[], (scope.allocate suggestion).2.names⟩]⟩) := by
  have visible : ScopeTree.visible ⟨[⟨[], scope.names⟩]⟩ 0 = scope.names :=
    List.append_nil scope.names
  rw [ScopeTree.allocate, visible]
  rfl

end PageCompiler
