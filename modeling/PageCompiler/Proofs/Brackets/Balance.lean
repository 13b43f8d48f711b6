/-
  Brackets of a text, read code point by code point.

  A text leads from one scan to another; on the way the depth stays above a floor, and wherever a line
  breaks the scan is settled, so that the next line can be scanned without it. Texts are put together
  from two kinds of pieces: outside of literals a piece is a path from one level of brackets to another
  (`Path`), inside a literal it is content that leaves the literal open and the depth as it is
  (`Content`). Content between two quotes is a path again.
-/
import PageCompiler.Layout
import PageCompiler.Proofs.LineBreaks

namespace PageCompiler.Layout

/-- Quotes and brackets. -/
def isDelimiter (point : CodePoint) : Bool := isQuote point || isOpener point || isCloser point

/-- A line can end here: nothing is escaped, and only a literal that may span lines is open. -/
def Scan.Settled (scan : Scan) : Prop :=
  scan.escaped = false ∧ (scan.quote = none ∨ scan.quote = some spanningQuote)

/-- The text leads from one scan to another. The depth is never below the floor, and at every line
    break the scan is settled. -/
inductive Leads (floor : Int) : Scan → Text → Scan → Prop
  | stay {scan : Scan} : floor ≤ scan.change → Leads floor scan [] scan
  | read {scan last : Scan} {point : CodePoint} {rest : Text} : floor ≤ scan.change →
      (Text.isLineBoundary point = true → scan.Settled) → Leads floor (scan.step point) rest last →
      Leads floor scan (point :: rest) last

namespace Leads

variable {floor lower : Int} {scan middle last : Scan} {left right text : Text}

theorem append (first : Leads floor scan left middle) (second : Leads floor middle right last) :
    Leads floor scan (left ++ right) last := by
  induction first with
  | stay _ => exact second
  | read above settled _ ih => exact .read above settled (ih second)

theorem mono (leads : Leads floor scan text last) (below : lower ≤ floor) :
    Leads lower scan text last := by
  induction leads with
  | stay above => exact .stay (Int.le_trans below above)
  | read above settled _ ih => exact .read (Int.le_trans below above) settled ih

theorem split (leads : Leads floor scan (left ++ right) last) :
    ∃ middle, Leads floor scan left middle ∧ Leads floor middle right last := by
  induction left generalizing scan with
  | nil =>
      refine ⟨scan, .stay ?_, leads⟩
      cases leads with
      | stay above => exact above
      | read above _ _ => exact above
  | cons point rest ih =>
      cases leads with
      | read above settled later =>
          obtain ⟨middle, first, second⟩ := ih later
          exact ⟨middle, .read above settled first, second⟩

theorem above_start (leads : Leads floor scan text last) : floor ≤ scan.change := by
  cases leads with
  | stay above => exact above
  | read above _ _ => exact above

theorem foldl_eq (leads : Leads floor scan text last) : text.foldl Scan.step scan = last := by
  induction leads with
  | stay _ => rfl
  | read _ _ _ ih => exact ih

end Leads

/-- Outside of literals, the text leads from one level of brackets to another and never below the
    ground. -/
def Path (low high : Nat) (text : Text) : Prop :=
  ∀ ground : Int, Leads ground ⟨ground + low, none, false⟩ text ⟨ground + high, none, false⟩

/-- The text closes what it opens, and nothing else. -/
def Balanced (text : Text) : Prop := Path 0 0 text

/-- The text leaves a literal open in which it stands. -/
def Content (quote : CodePoint) (text : Text) : Prop :=
  ∀ depth : Int, Leads depth ⟨depth, some quote, false⟩ text ⟨depth, some quote, false⟩

/-- The text has no quotes or brackets. -/
def Unmarked (text : Text) : Prop := ∀ point ∈ text, isDelimiter point = false

instance : DecidablePred Unmarked := fun text =>
  inferInstanceAs (Decidable (∀ point ∈ text, isDelimiter point = false))

/-- The text means nothing to a scan, outside of literals and inside them. -/
def Neutral (text : Text) : Prop := ∀ point ∈ text, isDelimiter point = false ∧ point ≠ '\\'

instance : DecidablePred Neutral := fun text =>
  inferInstanceAs (Decidable (∀ point ∈ text, isDelimiter point = false ∧ point ≠ '\\'))

/-- The code points that a scan takes notice of. -/
def marks : Text := "\x22\x27\x60([\x7b)]\x7d\\"

/-- What has a property that no mark has is neutral. -/
theorem neutral_of_property {property : CodePoint → Bool} {point : CodePoint}
    (apart : ∀ mark ∈ marks, property mark = false) (holds : property point = true) :
    isDelimiter point = false ∧ point ≠ '\\' := by
  have noMark : point ∉ marks := by
    intro member
    rw [apart point member] at holds
    cases holds
  simp only [marks, Text.ofString, Text.ofChars] at noMark
  simp only [isDelimiter, isQuote, isOpener, isCloser, Text.ofString, Text.ofChars]
  simp at noMark ⊢
  tauto

/-- The level after a text without quotes. There is none if the text closes more than is open. -/
def levelAfter? : Nat → Text → Option Nat
  | level, [] => some level
  | level, point :: rest =>
      if isQuote point then none
      else if isOpener point then levelAfter? (level + 1) rest
      else if isCloser point then if level = 0 then none else levelAfter? (level - 1) rest
      else levelAfter? level rest

variable {low middle high level : Nat} {left right text : Text} {quote point : CodePoint}

theorem settled_outside (change : Int) : Scan.Settled ⟨change, none, false⟩ := ⟨rfl, .inl rfl⟩

theorem step_outside (unquoted : isQuote point = false) (change : Int) :
    Scan.step ⟨change, none, false⟩ point =
      ⟨if isOpener point then change + 1 else if isCloser point then change - 1 else change, none,
        false⟩ := by
  simp only [Scan.step, unquoted]
  split
  · contradiction
  · split
    · rfl
    · split <;> rfl

namespace Path

theorem stay (level : Nat) : Path level level [] := fun ground => .stay (by dsimp only; omega)

theorem append (first : Path low middle left) (second : Path middle high right) :
    Path low high (left ++ right) :=
  fun ground => (first ground).append (second ground)

/-- A text can stand deeper. -/
theorem raise (path : Path low high text) (levels : Nat) :
    Path (low + levels) (high + levels) text := by
  intro ground
  have raised := (path (ground + levels)).mono (Int.le_add_of_nonneg_right (Int.natCast_nonneg levels))
  have sum : ∀ level : Nat, ground + levels + level = ground + (level + levels : Nat) := by
    intro level
    omega
  rwa [sum, sum] at raised

/-- A fixed text without quotes leads where its brackets lead. -/
theorem fixed (text : Text) (found : levelAfter? low text = some high) : Path low high text := by
  intro ground
  -- The cases of `levelAfter?`: the end, a quote, an opener, a closer with nothing open, a closer, and
  -- anything else.
  fun_induction levelAfter? low text with
  | case1 level =>
      cases found
      exact .stay (by dsimp only; omega)
  | case2 => cases found
  | case3 level point rest unquoted opens ih =>
      refine .read (by dsimp only; omega) (fun _ => settled_outside _) ?_
      rw [step_outside (Bool.eq_false_iff.mpr unquoted), if_pos opens]
      have next := ih found
      rwa [show ground + ((level + 1 : Nat) : Int) = ground + level + 1 by omega] at next
  | case4 => cases found
  | case5 level point rest unquoted notOpener closes filled ih =>
      refine .read (by dsimp only; omega) (fun _ => settled_outside _) ?_
      rw [step_outside (Bool.eq_false_iff.mpr unquoted), if_neg notOpener, if_pos closes]
      have next := ih found
      rwa [show ground + ((level - 1 : Nat) : Int) = ground + level - 1 by omega] at next
  | case6 level point rest unquoted notOpener notCloser ih =>
      refine .read (by dsimp only; omega) (fun _ => settled_outside _) ?_
      rw [step_outside (Bool.eq_false_iff.mpr unquoted), if_neg notOpener, if_neg notCloser]
      exact ih found

/-- A fixed text follows. -/
theorem write (path : Path low middle left) (right : Text)
    (found : levelAfter? middle right = some high) : Path low high (left ++ right) :=
  path.append (fixed right found)

/-- A balanced text follows. -/
theorem hold (path : Path low high left) (inside : Balanced right) : Path low high (left ++ right) := by
  have raised := raise inside high
  rw [Nat.zero_add] at raised
  exact path.append raised

end Path

namespace Content

theorem stay (quote : CodePoint) : Content quote [] := fun _ => .stay (Int.le_refl _)

theorem append (first : Content quote left) (second : Content quote right) :
    Content quote (left ++ right) :=
  fun depth => (first depth).append (second depth)

theorem flatMap {α : Type} {items : List α} {write : α → Text}
    (each : ∀ item ∈ items, Content quote (write item)) : Content quote (items.flatMap write) := by
  induction items with
  | nil => exact stay quote
  | cons item rest ih =>
      rw [List.flatMap_cons]
      exact (each item List.mem_cons_self).append (ih fun other member => each other (.tail _ member))

/-- Code points that neither end the literal nor escape anything. Only a literal that may span lines
    holds line breaks. -/
theorem of_plain (plain : ∀ point ∈ text, point ≠ quote ∧ point ≠ '\\')
    (lines : Text.Unbroken text ∨ quote = spanningQuote) : Content quote text := by
  intro depth
  induction text with
  | nil => exact stay quote depth
  | cons point rest ih =>
      obtain ⟨⟨noQuote, noEscape⟩, others⟩ := List.forall_mem_cons.mp plain
      refine .read (Int.le_refl _) (fun boundary => ⟨rfl, .inr ?_⟩) ?_
      · rcases lines with unbroken | rfl
        · rw [unbroken point List.mem_cons_self] at boundary
          cases boundary
        · rfl
      · have kept : Scan.step ⟨depth, some quote, false⟩ point = ⟨depth, some quote, false⟩ := by
          simp [Scan.step, noQuote, noEscape]
        rw [kept]
        exact ih others (lines.imp_left fun unbroken other member => unbroken other (.tail _ member))

/-- An escaped code point, which must not end the line. -/
theorem escape (point : CodePoint) (unbroken : Text.isLineBoundary point = false) :
    Content quote ['\\', point] := by
  intro depth
  have backslash : Text.isLineBoundary (.char '\\') = false := rfl
  have opened : Scan.step ⟨depth, some quote, false⟩ (.char '\\') = ⟨depth, some quote, true⟩ := by
    simp [Scan.step]
  have closed : Scan.step ⟨depth, some quote, true⟩ point = ⟨depth, some quote, false⟩ := by
    simp [Scan.step]
  refine .read (Int.le_refl _) (fun boundary => nomatch backslash.symm.trans boundary) ?_
  rw [opened]
  refine .read (Int.le_refl _) (fun boundary => nomatch unbroken.symm.trans boundary) ?_
  rw [closed]
  exact .stay (Int.le_refl _)

end Content

theorem Neutral.unmarked (neutral : Neutral text) : Unmarked text :=
  fun point member => (neutral point member).1

theorem Neutral.append (first : Neutral left) (second : Neutral right) : Neutral (left ++ right) :=
  List.forall_mem_append.mpr ⟨first, second⟩

/-- Neutral text stands in a template as it is, line breaks included. -/
theorem Neutral.content (neutral : Neutral text) : Content spanningQuote text := by
  refine .of_plain (fun point member => ⟨?_, (neutral point member).2⟩) (.inr rfl)
  rintro rfl
  cases (neutral _ member).1

theorem Unmarked.balanced (unmarked : Unmarked text) : Balanced text := by
  refine .fixed text ?_
  induction text with
  | nil => rfl
  | cons point rest ih =>
      obtain ⟨plain, others⟩ := List.forall_mem_cons.mp unmarked
      simp only [isDelimiter, Bool.or_eq_false_iff] at plain
      rw [levelAfter?, if_neg (by simp [plain]), if_neg (by simp [plain]), if_neg (by simp [plain]),
        ih others]

theorem Neutral.balanced (neutral : Neutral text) : Balanced text := neutral.unmarked.balanced

namespace Balanced

theorem nil : Balanced [] := Path.stay 0

theorem append (first : Balanced left) (second : Balanced right) : Balanced (left ++ right) :=
  Path.append first second

/-- Content between two quotes. -/
theorem literal (quote : CodePoint) (quoted : isQuote quote = true) (content : Content quote text) :
    Balanced (quote :: (text ++ [quote])) := by
  intro ground
  have opened : Scan.step ⟨ground + (0 : Nat), none, false⟩ quote = ⟨ground, some quote, false⟩ := by
    simp [Scan.step, quoted]
  have closed : Scan.step ⟨ground, some quote, false⟩ quote = ⟨ground + (0 : Nat), none, false⟩ := by
    have noEscape : quote ≠ '\\' := by
      rintro rfl
      cases quoted
    simp [Scan.step, noEscape]
  have unbroken : Text.isLineBoundary quote = false := by
    have all : ∀ other ∈ ("\x22\x27\x60" : Text), Text.isLineBoundary other = false := by decide
    exact all quote (of_decide_eq_true quoted)
  refine .read (by simp) (fun _ => settled_outside _) ?_
  rw [opened]
  refine (content ground).append (.read (Int.le_refl _) ?_ ?_)
  · intro boundary
    rw [unbroken] at boundary
    cases boundary
  · rw [closed]
    exact .stay (by simp)

theorem flatMap {α : Type} {items : List α} {write : α → Text}
    (each : ∀ item ∈ items, Balanced (write item)) : Balanced (items.flatMap write) := by
  induction items with
  | nil => exact nil
  | cons item rest ih =>
      rw [List.flatMap_cons]
      exact (each item List.mem_cons_self).append (ih fun other member => each other (.tail _ member))

theorem intercalate {separator : Text} {pieces : List Text} (between : Balanced separator)
    (each : ∀ piece ∈ pieces, Balanced piece) : Balanced (List.intercalate separator pieces) := by
  induction pieces with
  | nil => exact nil
  | cons piece rest ih =>
      obtain ⟨first, others⟩ := List.forall_mem_cons.mp each
      cases rest with
      | nil => rwa [List.intercalate_singleton]
      | cons next more =>
          rw [List.intercalate_cons_cons]
          exact (first.append between).append (ih others)

end Balanced

end PageCompiler.Layout
