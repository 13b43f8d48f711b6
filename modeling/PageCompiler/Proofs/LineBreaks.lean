/-
  Line breaks of a text.

  A text that ends with a line feed consists of lines, each free of line breaks and followed by what
  ends it: a carriage return and a line feed together, or one boundary character (`lines_splitLines`).
  Unifying the breaks puts one line feed for each; part by part that is the same, if no pair is cut.
-/
import Mathlib.Data.List.DropRight
import PageCompiler.Text.Blank
import PageCompiler.Text.Lines

namespace PageCompiler.Text

/-- The text with every line break written as one line feed. -/
def unifyBreaks : Text → Text
  | [] => []
  | '\r' :: '\n' :: rest => '\n' :: unifyBreaks rest
  | point :: rest => (if isLineBoundary point then .char '\n' else point) :: unifyBreaks rest

/-- The text has no line breaks. -/
def Unbroken (text : Text) : Prop := ∀ point ∈ text, isLineBoundary point = false

/-- All line breaks are line feeds. -/
def FeedsOnly (text : Text) : Prop :=
  ∀ point ∈ text, isLineBoundary point = true → point = .char '\n'

def AllBlank (text : Text) : Prop := ∀ point ∈ text, isBlank point = true

/-- The text does not end in a blank. -/
def EndsFilled (text : Text) : Prop := ∀ point ∈ text.getLast?, isBlank point = false

instance : DecidablePred FeedsOnly := fun text =>
  inferInstanceAs (Decidable (∀ point ∈ text, _))

instance : DecidablePred EndsFilled := fun text =>
  inferInstanceAs (Decidable (∀ point ∈ text.getLast?, _))

/-- No pair of carriage return and line feed is cut between the two texts. -/
def Uncut (left right : Text) : Prop :=
  left.getLast? = some (.char '\r') → right.head? ≠ some (.char '\n')

variable {point : CodePoint} {left right text rest terminator : Text}

theorem isBlank_of_isLineBoundary (boundary : isLineBoundary point = true) :
    isBlank point = true := by
  have all : ∀ other ∈ ("\n\r\x0b\x0c\x1c\x1d\x1e\u0085\u2028\u2029" : Text),
      isBlank other = true := by
    decide
  exact all point (of_decide_eq_true boundary)

theorem EndsFilled.eq_nil_of_blank (filled : EndsFilled (text ++ rest)) (blank : AllBlank rest) :
    rest = [] := by
  cases last : rest.getLast? with
  | none => exact List.getLast?_eq_none_iff.mp last
  | some point =>
      have unfilled := filled point (by simp [List.getLast?_append, last])
      rw [blank point (List.mem_of_getLast? last)] at unfilled
      cases unfilled

/-- Blanks at both ends of a text are what trimming takes. -/
theorem trim_spec (text : Text) : ∃ lead trail, text = lead ++ trimLeft text ∧
    trimLeft text = trim text ++ trail ∧ AllBlank lead ∧ AllBlank trail :=
  ⟨text.takeWhile isBlank, (trimLeft text).rtakeWhile isBlank,
    List.takeWhile_append_dropWhile.symm, List.rdropWhile_append_rtakeWhile.symm,
    fun _ => List.mem_takeWhile_imp, fun _ => List.mem_rtakeWhile_imp⟩

/-- The condition of the last equation of `unifyBreaks` and of `splitLines`. -/
theorem uncut_singleton_iff : Uncut [point] rest ↔
    ∀ others, point = .char '\r' → rest = .char '\n' :: others → False := by
  constructor
  · rintro uncut others rfl rfl
    exact uncut rfl rfl
  · intro unpaired isReturn first
    obtain ⟨others, rfl⟩ := List.head?_eq_some_iff.mp first
    exact unpaired others (Option.some.inj isReturn) rfl

theorem unifyBreaks_cons (uncut : Uncut [point] rest) :
    unifyBreaks (point :: rest) =
      (if isLineBoundary point then .char '\n' else point) :: unifyBreaks rest :=
  unifyBreaks.eq_3 _ _ (uncut_singleton_iff.mp uncut)

/-- Line breaks are unified part by part. -/
theorem unifyBreaks_append (uncut : Uncut left right) :
    unifyBreaks (left ++ right) = unifyBreaks left ++ unifyBreaks right := by
  induction left using unifyBreaks.induct with
  | case1 => rfl
  | case2 rest ih =>
      simp only [List.cons_append, unifyBreaks]
      rw [ih fun last => uncut (by simp [List.getLast?_cons, last])]
  | case3 point rest unpaired ih =>
      have here : Uncut [point] rest := uncut_singleton_iff.mpr unpaired
      have joined : Uncut [point] (rest ++ right) := by
        cases rest with
        | nil => exact uncut
        | cons next others => exact here
      rw [List.cons_append, unifyBreaks_cons here, unifyBreaks_cons joined,
        ih fun last => uncut (by simp [List.getLast?_cons, last]), List.cons_append]

theorem unifyBreaks_eq_self_iff : unifyBreaks text = text ↔ FeedsOnly text := by
  unfold FeedsOnly
  induction text using unifyBreaks.induct with
  | case1 => simp [unifyBreaks]
  | case2 rest ih => simp [unifyBreaks, show isLineBoundary (.char '\r') = true from rfl]
  | case3 point rest unpaired ih =>
      rw [unifyBreaks.eq_3 _ _ unpaired, List.cons.injEq, ih, List.forall_mem_cons]
      refine and_congr_left fun _ => ?_
      cases isLineBoundary point <;> simp [@eq_comm _ point]

theorem unifyBreaks_singleton (unbroken : isLineBoundary point = false) :
    unifyBreaks [point] = [point] := by
  rw [unifyBreaks_cons (by simp [Uncut]), unbroken]
  rfl

theorem uncut_of_unbroken (unbroken : isLineBoundary point = false) : Uncut left [point] := by
  rintro _ ⟨⟩
  cases unbroken

/-- What ends a line, and what follows it. -/
inductive LineEnd : Text → Text → Prop
  | pair (rest : Text) : LineEnd "\r\n" rest
  | single {point : CodePoint} {rest : Text} : isLineBoundary point = true → Uncut [point] rest →
      LineEnd [point] rest

theorem LineEnd.unifyBreaks_eq (ended : LineEnd terminator rest) :
    unifyBreaks terminator = [.char '\n'] := by
  cases ended with
  | pair => rfl
  | single boundary =>
      rw [unifyBreaks_cons (by simp [Uncut]), boundary]
      rfl

theorem LineEnd.blank (ended : LineEnd terminator rest) : AllBlank terminator := by
  cases ended with
  | pair => unfold AllBlank; decide
  | single boundary => simpa [AllBlank] using isBlank_of_isLineBoundary boundary

/-- What follows the end of a line does not belong to it. -/
theorem LineEnd.uncut (ended : LineEnd terminator rest) : Uncut (text ++ terminator) rest := by
  cases ended with
  | pair => simp [Uncut, ofString, ofChars]
  | single boundary uncut => simpa [Uncut] using uncut

/-- A text and its lines, each of them ended. -/
inductive Lines : Text → List Text → Prop
  | nil : Lines [] []
  | cons {line terminator rest : Text} {lines : List Text} :
      Unbroken line → LineEnd terminator rest → Lines rest lines →
      Lines (line ++ (terminator ++ rest)) (line :: lines)

/-- A line break at the start ends an empty line. -/
theorem Lines.cons_nil {lines : List Text} (ended : LineEnd terminator rest)
    (others : Lines rest lines) : Lines (terminator ++ rest) ([] :: lines) :=
  @Lines.cons [] _ _ _ (by simp [Unbroken]) ended others

/-- A text that ends with a line feed consists of ended lines. -/
theorem lines_splitLines (ended : ∀ point ∈ text.getLast?, point = .char '\n') :
    Lines text (splitLines text) := by
  induction text using splitLines.induct with
  | case1 => exact .nil
  | case2 rest ih =>
      refine .cons_nil (.pair rest) (ih fun point last => ?_)
      exact ended point (List.mem_getLast?_cons (List.mem_getLast?_cons last))
  | case3 point rest unpaired boundary ih =>
      rw [splitLines.eq_3 _ _ unpaired, if_pos boundary]
      refine .cons_nil (.single boundary (uncut_singleton_iff.mpr unpaired)) (ih fun other last => ?_)
      exact ended other (List.mem_getLast?_cons last)
  | case4 point rest unpaired unbroken ih =>
      rw [splitLines.eq_3 _ _ unpaired, if_neg unbroken]
      have lines := ih fun other last => ended other (List.mem_getLast?_cons last)
      cases restLines : splitLines rest with
      | nil =>
          rw [restLines] at lines
          cases lines
          rw [ended point rfl] at unbroken
          exact absurd rfl unbroken
      | cons line others =>
          rw [restLines] at lines
          cases lines with
          | cons lineUnbroken lineEnd rest =>
              refine @Lines.cons (point :: line) _ _ _ ?_ lineEnd rest
              exact List.forall_mem_cons.mpr ⟨Bool.eq_false_iff.mpr unbroken, lineUnbroken⟩

/-! ## Lines that are put together -/

variable {line : Text} {lines : List Text}

theorem splitLines_cons (unbroken : isLineBoundary point = false) :
    splitLines (point :: rest) = consToFirst point (splitLines rest) := by
  have noReturn : ∀ others, point = .char '\r' → rest = .char '\n' :: others → False := by
    rintro others rfl _
    cases unbroken
  rw [splitLines.eq_3 _ _ noReturn, if_neg (by simp [unbroken])]

theorem splitLines_append (unbroken : Unbroken line) :
    splitLines (line ++ CodePoint.char '\n' :: rest) = line :: splitLines rest := by
  induction line with
  | nil => rfl
  | cons point line ih =>
      obtain ⟨here, later⟩ := List.forall_mem_cons.mp unbroken
      rw [List.cons_append, splitLines_cons here, ih later]
      rfl

theorem splitLines_of_unbroken (unbroken : Unbroken line) (filled : line ≠ []) :
    splitLines line = [line] := by
  induction line with
  | nil => exact absurd rfl filled
  | cons point line ih =>
      obtain ⟨here, later⟩ := List.forall_mem_cons.mp unbroken
      rw [splitLines_cons here]
      cases line with
      | nil => rfl
      | cons next line => rw [ih later (by simp)]; rfl

/-- Lines that hold something are found again. -/
theorem splitLines_intercalate (unbroken : ∀ line ∈ lines, Unbroken line)
    (filled : ∀ line ∈ lines, line ≠ []) : splitLines (List.intercalate "\n" lines) = lines := by
  induction lines with
  | nil => rfl
  | cons line lines ih =>
      obtain ⟨here, later⟩ := List.forall_mem_cons.mp unbroken
      obtain ⟨hereFilled, laterFilled⟩ := List.forall_mem_cons.mp filled
      cases lines with
      | nil => simpa using splitLines_of_unbroken here hereFilled
      | cons next lines =>
          rw [List.intercalate_cons_cons, List.append_assoc]
          exact (splitLines_append here).trans (congrArg (line :: ·) (ih later laterFilled))

end PageCompiler.Text
