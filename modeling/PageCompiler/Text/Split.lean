/-
  Cutting a list at every mark in it.
-/
import PageCompiler.Text.Basic

namespace PageCompiler.Text

variable {α : Type}

/-- Puts a member in front of the first piece. -/
def consToFirst (item : α) : List (List α) → List (List α)
  | [] => [[item]]
  | piece :: rest => (item :: piece) :: rest

/-- The pieces between the members that are marks; there is one more of them than there are marks. -/
def splitWhere (isMark : α → Bool) : List α → List (List α)
  | [] => [[]]
  | item :: rest =>
      if isMark item then [] :: splitWhere isMark rest
      else consToFirst item (splitWhere isMark rest)

def splitAt (mark : CodePoint) : Text → List Text := splitWhere (· = mark)

/-- The dot-separated segments of a text. -/
def segments (text : Text) : List Text := splitAt '.' text

theorem splitWhere_ne_nil (isMark : α → Bool) (items : List α) : splitWhere isMark items ≠ [] := by
  cases items with
  | nil => simp [splitWhere]
  | cons item rest =>
      simp only [splitWhere]
      split
      · simp
      · cases splitWhere isMark rest <;> simp [consToFirst]

end PageCompiler.Text
