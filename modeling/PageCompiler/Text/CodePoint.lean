/-
  Code points: characters, and the surrogates that UTF-16 uses in pairs. A surrogate is no character,
  but data may hold one on its own.
-/
namespace PageCompiler

inductive CodePoint where
  | char (c : Char)
  /-- The code point `0xd800 + offset`. -/
  | surrogate (offset : Fin 0x800)
deriving DecidableEq, Repr

namespace CodePoint

instance : Inhabited CodePoint := ⟨.char ' '⟩

instance : Coe Char CodePoint := ⟨.char⟩

def code : CodePoint → Nat
  | .char c => c.toNat
  | .surrogate offset => 0xd800 + offset.val

/-- The code point of a number, if there is one. -/
def ofCode? (code : Nat) : Option CodePoint :=
  if code.isValidChar then some (.char (Char.ofNat code))
  else if bound : code - 0xd800 < 0x800 then some (.surrogate ⟨code - 0xd800, bound⟩)
  else none

/-- The code point of a number, or U+FFFD if there is none. -/
def ofCode (code : Nat) : CodePoint := (ofCode? code).getD '\ufffd'

/-- Code points are ordered by their numbers. -/
instance : LT CodePoint := ⟨fun left right => left.code < right.code⟩

instance (left right : CodePoint) : Decidable (left < right) :=
  inferInstanceAs (Decidable (left.code < right.code))

def isSurrogate : CodePoint → Bool
  | .char _ => false
  | .surrogate _ => true

/-- A class of characters as a class of code points; no surrogate is in it. -/
def holds (property : Char → Bool) : CodePoint → Bool
  | .char c => property c
  | .surrogate _ => false

/-- A decimal digit of ASCII. -/
def isDigit (point : CodePoint) : Bool := point.holds Char.isDigit

def isAscii (point : CodePoint) : Bool := point.code < 0x80

end CodePoint

namespace Text

/-- Whether `code` lies in one of the ranges, which are ascending and include both ends. -/
def inRanges : List (Nat × Nat) → Nat → Bool
  | [], _ => false
  | (low, high) :: rest, code =>
      if code < low then false else code ≤ high || inRanges rest code

end Text

end PageCompiler
