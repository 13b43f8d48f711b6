/-
  Allocation of names that are free where they are used.

  A suggestion is turned into an identifier and, if that is reserved or taken, followed by the
  least number from 1 on that makes it free. `Scope` holds the names of one module; a `ScopeTree`
  holds nested scopes, where a name must also differ from those of all enclosing scopes.
-/
import PageCompiler.Identifier

namespace PageCompiler

/-- The names tried for an identifier, best first. -/
def candidateName (base : Text) : Nat → Text
  | 0 => base
  | number + 1 => base ++ Text.ofNat (number + 1)

def isFreeName (taken : List Text) (name : Text) : Bool :=
  !Identifier.isReserved name && !taken.contains name

/-- The first free candidate. Candidates are distinct, so one of the first
    `taken.length + reservedWords.length + 1` is free. -/
def freshName (taken : List Text) (suggestion : Text) : Text :=
  let base := Identifier.sanitize suggestion
  let bound := taken.length + Identifier.reservedWords.length + 1
  let number := (List.range bound).find? fun number => isFreeName taken (candidateName base number)
  candidateName base (number.getD bound)

/-- The names taken in a module, in the order in which they were allocated. -/
structure Scope where
  names : List Text
deriving DecidableEq, Repr

namespace Scope

def empty : Scope := ⟨[]⟩

def allocate (scope : Scope) (suggestion : Text) : Text × Scope :=
  let name := freshName scope.names suggestion
  (name, ⟨scope.names ++ [name]⟩)

end Scope

/-- A scope inside others: the numbers of the enclosing scopes, nearest first, and its own names. -/
structure NestedScope where
  enclosing : List Nat
  names : List Text
deriving DecidableEq, Repr

/-- Nested scopes, each known by its number; number 0 is the outermost one. -/
structure ScopeTree where
  scopes : List NestedScope
deriving DecidableEq, Repr

namespace ScopeTree

def root : ScopeTree := ⟨[⟨[], []⟩]⟩

def names (tree : ScopeTree) (number : Nat) : List Text :=
  match tree.scopes[number]? with
  | some scope => scope.names
  | none => []

def enclosing (tree : ScopeTree) (number : Nat) : List Nat :=
  match tree.scopes[number]? with
  | some scope => scope.enclosing
  | none => []

/-- The names that may not be handed out in a scope: its own and those of the enclosing scopes. -/
def visible (tree : ScopeTree) (number : Nat) : List Text :=
  (number :: tree.enclosing number).flatMap tree.names

def isTaken (tree : ScopeTree) (number : Nat) (name : Text) : Bool :=
  (tree.visible number).contains name

def allocate (tree : ScopeTree) (number : Nat) (suggestion : Text) : Text × ScopeTree :=
  let name := freshName (tree.visible number) suggestion
  (name, ⟨tree.scopes.modify number fun scope => { scope with names := scope.names ++ [name] }⟩)

/-- Opens a scope inside the given one and gives its number. -/
def addChild (tree : ScopeTree) (number : Nat) : Nat × ScopeTree :=
  (tree.scopes.length, ⟨tree.scopes ++ [⟨number :: tree.enclosing number, []⟩]⟩)

end ScopeTree

end PageCompiler
