/-
  The grammar of templates, and that reading a template undoes writing it.

  A list of parts is well formed if its text parts are filled and hold no pair of opening braces, no
  two of them stand side by side, none that ends in an opening brace stands in front of a reference,
  and its references match the pattern. `Writes` says which texts write a list of parts: text stands as
  it is, and a reference stands in double braces with any blanks around it. Reading gives a list of
  parts exactly if it is well formed and the template writes it, whatever the blanks.

  If reading ends in a fault, the template up to the fault is a template as well, and its parts are
  those that had been collected.
-/
import Mathlib.Data.List.Chain
import PageCompiler.Proofs.LineBreaks
import PageCompiler.Proofs.Segments
import PageCompiler.Template

namespace PageCompiler

namespace Text

variable {text lead trail rest : Text} {point : CodePoint}

theorem mem_segment_of_mem (member : point ∈ text) :
    point = '.' ∨ ∃ piece ∈ segments text, point ∈ piece := by
  unfold segments splitAt
  induction text with
  | nil => cases member
  | cons first text ih =>
      rw [splitWhere]
      by_cases isDot : first = CodePoint.char '.'
      · rw [if_pos (by simpa using isDot)]
        rcases List.mem_cons.mp member with rfl | later
        · exact .inl isDot
        · refine (ih later).imp id ?_
          rintro ⟨piece, inPieces, inside⟩
          exact ⟨piece, List.mem_cons_of_mem _ inPieces, inside⟩
      · rw [if_neg (by simpa using isDot)]
        cases pieces : splitWhere (· = CodePoint.char '.') text with
        | nil => exact absurd pieces (splitWhere_ne_nil _ _)
        | cons front others =>
            rcases List.mem_cons.mp member with rfl | later
            · exact .inr ⟨point :: front, List.mem_cons_self, List.mem_cons_self⟩
            · refine (ih later).imp id ?_
              rw [pieces]
              rintro ⟨piece, inPieces, inside⟩
              rcases List.mem_cons.mp inPieces with rfl | below
              · exact ⟨first :: piece, List.mem_cons_self, List.mem_cons_of_mem _ inside⟩
              · exact ⟨piece, List.mem_cons_of_mem _ below, inside⟩

theorem dropWhile_append_of_filled (blank : AllBlank lead)
    (filled : ∀ point ∈ rest.head?, isBlank point = false) :
    (lead ++ rest).dropWhile isBlank = rest := by
  rw [List.dropWhile_append_of_pos blank]
  cases rest with
  | nil => rfl
  | cons point rest => rw [List.dropWhile_cons_of_neg (by simp [filled point rfl])]

/-- Trimming takes the blanks around a text without blanks. -/
theorem trim_padded (leadBlank : AllBlank lead) (trailBlank : AllBlank trail)
    (filled : ∀ point ∈ text, isBlank point = false) (ne_nil : text ≠ []) :
    trim (lead ++ (text ++ trail)) = text := by
  have left : trimLeft (lead ++ (text ++ trail)) = text ++ trail := by
    refine dropWhile_append_of_filled leadBlank fun point first => ?_
    rw [List.head?_append_of_ne_nil _ ne_nil] at first
    exact filled point (List.mem_of_head? first)
  have right : (text ++ trail).reverse.dropWhile isBlank = text.reverse := by
    rw [List.reverse_append]
    refine dropWhile_append_of_filled (fun point member => ?_) fun point first => ?_
    · exact trailBlank point (List.mem_reverse.mp member)
    · exact filled point (List.mem_reverse.mp (List.mem_of_head? first))
  rw [trim, left, trimRight, right, List.reverse_reverse]

theorem exists_range_of_inRanges {ranges : List (Nat × Nat)} {code : Nat}
    (inside : inRanges ranges code = true) :
    ∃ range ∈ ranges, range.1 ≤ code ∧ code ≤ range.2 := by
  induction ranges with
  | nil => cases inside
  | cons range ranges ih =>
      obtain ⟨low, high⟩ := range
      rw [inRanges] at inside
      split at inside
      · cases inside
      · next reached =>
          rcases Bool.or_eq_true_iff.mp inside with here | later
          · exact ⟨(low, high), List.mem_cons_self, Nat.le_of_not_lt reached, of_decide_eq_true here⟩
          · obtain ⟨other, member, bounds⟩ := ih later
            exact ⟨other, List.mem_cons_of_mem _ member, bounds⟩

/-- No word character is blank. -/
theorem isBlank_eq_false_of_isWordChar (word : isWordChar point = true) : isBlank point = false := by
  have apart : ∀ range ∈ blankRanges, ∀ offset < range.2 - range.1 + 1,
      inRanges alphanumericRanges (range.1 + offset) = false := by
    decide +kernel
  refine Bool.eq_false_iff.mpr fun blank => ?_
  rcases Bool.or_eq_true_iff.mp word with low | alphanumeric
  · rw [of_decide_eq_true low] at blank
    exact absurd blank (by decide)
  · obtain ⟨range, member, above, below⟩ := exists_range_of_inRanges blank
    have outside := apart range member (point.code - range.1) (by omega)
    rw [Nat.add_sub_cancel' above, alphanumeric] at outside
    cases outside

end Text

namespace Template

variable {mark : CodePoint} {text before after content path : Text}

/-- The mark stands twice in a row. -/
def HasPair (mark : CodePoint) (text : Text) : Prop := [mark, mark] <:+: text

theorem hasPair_cons_iff {point : CodePoint} :
    HasPair mark (point :: text) ↔ point = mark ∧ text.head? = some mark ∨ HasPair mark text := by
  unfold HasPair
  rw [List.infix_cons_iff, List.cons_prefix_cons, @eq_comm _ point]
  cases text with
  | nil => simp
  | cons next text => simp [@eq_comm _ next]

theorem not_hasPair_nil : ¬ HasPair mark [] := by
  simp [HasPair]

/-- A mark that is put at the end of a text makes a pair with one that stands there. -/
theorem hasPair_append_mark_iff :
    HasPair mark (text ++ [mark]) ↔ HasPair mark text ∨ text.getLast? = some mark := by
  induction text with
  | nil => simp [hasPair_cons_iff]
  | cons point text ih =>
      rw [List.cons_append, hasPair_cons_iff, ih, hasPair_cons_iff]
      cases text with
      | nil => simp [not_hasPair_nil]
      | cons next text => simp [List.getLast?_cons_cons, or_assoc]

theorem cutAtPair_cons {point : CodePoint} (apart : ¬ (point = mark ∧ text.head? = some mark)) :
    cutAtPair mark (point :: text) =
      (cutAtPair mark text).map fun (before, after) => (point :: before, after) := by
  cases text with
  | nil => rfl
  | cons next text => exact if_neg fun both => apart ⟨both.1, congrArg some both.2⟩

theorem cutAtPair_eq_none_iff : cutAtPair mark text = none ↔ ¬ HasPair mark text := by
  induction text with
  | nil => simp [cutAtPair, not_hasPair_nil]
  | cons point text ih =>
      rw [hasPair_cons_iff, not_or]
      by_cases pair : point = mark ∧ text.head? = some mark
      · obtain ⟨rfl, first⟩ := pair
        obtain ⟨others, rfl⟩ := List.head?_eq_some_iff.mp first
        simp [cutAtPair]
      · rw [cutAtPair_cons pair, Option.map_eq_none_iff, ih]
        exact ⟨fun none => ⟨pair, none⟩, And.right⟩

/-- A cut is made at the first pair. -/
theorem cutAtPair_append (first : ¬ HasPair mark (before ++ [mark])) :
    cutAtPair mark (before ++ mark :: mark :: after) = some (before, after) := by
  induction before with
  | nil => simp [cutAtPair]
  | cons point before ih =>
      rw [List.cons_append, hasPair_cons_iff, not_or] at first
      have apart : ¬ (point = mark ∧ (before ++ mark :: mark :: after).head? = some mark) := by
        cases before <;> exact first.1
      rw [List.cons_append, cutAtPair_cons apart, ih first.2]
      rfl

theorem not_hasPair_of_cutAtPair (cut : cutAtPair mark text = some (before, after)) :
    ¬ HasPair mark (before ++ [mark]) := by
  fun_induction cutAtPair mark text generalizing before with
  | case1 point next rest both =>
      cases cut
      simp [hasPair_cons_iff, not_hasPair_nil]
  | case2 point next rest apart ih =>
      simp only [Option.map_eq_some_iff, Prod.exists, Prod.mk.injEq] at cut
      obtain ⟨front, back, inner, rfl, rfl⟩ := cut
      rw [List.cons_append, hasPair_cons_iff, not_or]
      refine ⟨?_, ih inner⟩
      have shape := eq_append_of_cutAtPair inner
      cases front with
      | nil =>
          cases shape
          exact fun both => apart ⟨both.1, rfl⟩
      | cons other front =>
          cases shape
          simpa using apart
  | case3 => cases cut

theorem isSegmentPart_of_isNameStart {point : CodePoint} (start : isNameStart point = true) :
    isSegmentPart point = true := by
  have letters : ∀ code < 128, (Char.ofNat code).isAlpha = true →
      Text.inRanges Text.alphanumericRanges code = true := by
    decide +kernel
  cases point with
  | surrogate _ => cases start
  | char c =>
      simp only [isNameStart, CodePoint.holds, Bool.or_eq_true, beq_iff_eq] at start
      rcases start with (letter | rfl) | rfl
      · have ascii : c.toNat < 128 := by
          rcases (Bool.or_eq_true _ _).mp letter with upper | lower
          · have bounds : c.val ≥ 'A'.val ∧ c.val ≤ 'Z'.val := of_decide_eq_true upper
            exact Nat.lt_of_le_of_lt (UInt32.le_iff_toNat_le.mp bounds.2) (by decide)
          · have bound : c.val ≤ 'z'.val := of_decide_eq_true ((Bool.and_eq_true _ _).mp lower).2
            exact Nat.lt_of_le_of_lt (UInt32.le_iff_toNat_le.mp bound) (by decide)
        have word := letters c.toNat ascii (by rwa [Char.ofNat_toNat])
        simp [isSegmentPart, Text.isWordChar, CodePoint.code, word]
      · decide
      · decide

/-- A reference consists of segment characters and dots. -/
theorem isSegmentPart_of_isReference {point : CodePoint} (matching : isReference path = true)
    (member : point ∈ path) : point = '.' ∨ isSegmentPart point = true := by
  refine (Text.mem_segment_of_mem member).imp id ?_
  rintro ⟨piece, inPieces, inside⟩
  unfold isReference at matching
  rw [Text.segments] at inPieces
  split at matching
  · next first rest others pieces =>
      simp only [Bool.and_eq_true, List.all_eq_true] at matching
      rw [pieces] at inPieces
      rcases List.mem_cons.mp inPieces with rfl | later
      · rcases List.mem_cons.mp inside with rfl | below
        · exact isSegmentPart_of_isNameStart matching.1.1
        · exact matching.1.2 point below
      · exact (matching.2 piece later).2 point inside
  · cases matching

/-- No character of a reference is blank or a brace. -/
theorem plain_of_isReference {point : CodePoint} (matching : isReference path = true)
    (member : point ∈ path) : Text.isBlank point = false ∧ point ≠ '\x7b' ∧ point ≠ '\x7d' := by
  rcases isSegmentPart_of_isReference matching member with rfl | part
  · decide
  · refine ⟨?_, ?_, ?_⟩
    · rcases Bool.or_eq_true_iff.mp part with word | dollar
      · exact Text.isBlank_eq_false_of_isWordChar word
      · rw [of_decide_eq_true dollar]
        decide
    · rintro rfl
      exact absurd part (by decide +kernel)
    · rintro rfl
      exact absurd part (by decide +kernel)

theorem ne_nil_of_isReference (matching : isReference path = true) : path ≠ [] := by
  rintro rfl
  cases matching

/-- A mark that is not in a text makes no pair in it. -/
theorem not_hasPair_of_not_mem (absent : mark ∉ text) : ¬ HasPair mark text :=
  fun pair => absent (pair.subset List.mem_cons_self)

variable {lead trail rest : Text}

/-- No brace stands in a reference with blanks around it. -/
theorem brace_not_mem_padded {brace : CodePoint} (isBrace : brace = '\x7b' ∨ brace = '\x7d')
    (matching : isReference path = true) (leadBlank : Text.AllBlank lead)
    (trailBlank : Text.AllBlank trail) : brace ∉ lead ++ (path ++ trail) := by
  have filled : Text.isBlank brace = false := by
    rcases isBrace with rfl | rfl <;> decide
  simp only [List.mem_append, not_or]
  refine ⟨fun inLead => ?_, fun inPath => ?_, fun inTrail => ?_⟩
  · rw [leadBlank brace inLead] at filled
    cases filled
  · obtain ⟨_, notOpening, notClosing⟩ := plain_of_isReference matching inPath
    exact isBrace.elim notOpening notClosing
  · rw [trailBlank brace inTrail] at filled
    cases filled

/-- Between the braces stands a reference with blanks around it. -/
theorem readReference_eq_ok_iff : readReference content = .ok path ↔
    isReference path = true ∧ ∃ lead trail, content = lead ++ (path ++ trail) ∧
      Text.AllBlank lead ∧ Text.AllBlank trail := by
  constructor
  · intro read
    unfold readReference at read
    dsimp only at read
    split_ifs at read with _ _ matching
    cases read
    obtain ⟨lead, trail, whole, tail, leadBlank, trailBlank⟩ := Text.trim_spec content
    exact ⟨matching, lead, trail, tail ▸ whole, leadBlank, trailBlank⟩
  · rintro ⟨matching, lead, trail, rfl, leadBlank, trailBlank⟩
    have trimmed := Text.trim_padded leadBlank trailBlank
      (fun point member => (plain_of_isReference matching member).1) (ne_nil_of_isReference matching)
    have noBrace := brace_not_mem_padded (.inl rfl) matching leadBlank trailBlank
    have uncut := cutAtPair_eq_none_iff.mpr (not_hasPair_of_not_mem noBrace)
    simp [readReference, trimmed, uncut, matching, ne_nil_of_isReference matching]

/-- A text part is filled and holds no pair of opening braces; `isPath` says which references there
    are. -/
def IsProper (isPath : Text → Prop) : TemplatePart → Prop
  | .text content => content ≠ [] ∧ ¬ HasPair '\x7b' content
  | .reference path => isPath path

/-- Whether a part may stand in front of another one. -/
def MayPrecede : TemplatePart → TemplatePart → Prop
  | .text _, .text _ => False
  | .text content, .reference _ => content.getLast? ≠ some (.char '\x7b')
  | .reference _, _ => True

/-- Parts that can be told apart again once they are written. -/
structure WellFormed (isPath : Text → Prop) (parts : List TemplatePart) : Prop where
  proper : ∀ part ∈ parts, IsProper isPath part
  apart : parts.IsChain MayPrecede

def opening : Text := "\x7b\x7b"

def closing : Text := "\x7d\x7d"

/-- A reference in braces, with blanks around it. -/
def interpolation (lead path trail : Text) : Text :=
  opening ++ (lead ++ (path ++ (trail ++ closing)))

/-- The text writes the parts one after the other. -/
inductive Writes : List TemplatePart → Text → Prop
  | nil : Writes [] []
  | text (content : Text) {parts : List TemplatePart} {rest : Text} :
      Writes parts rest → Writes (.text content :: parts) (content ++ rest)
  | reference (path : Text) {lead trail rest : Text} {parts : List TemplatePart} :
      Text.AllBlank lead → Text.AllBlank trail → Writes parts rest →
      Writes (.reference path :: parts) (interpolation lead path trail ++ rest)

/-- The parts that reading has collected when it ends, be it in a fault. -/
def collected (text : Text) : List TemplatePart :=
  match opened : cutAtPair '\x7b' text with
  | none => textParts text
  | some (before, inside) =>
      have := length_of_cutAtPair opened
      match closed : cutAtPair '\x7d' inside with
      | none => textParts before
      | some (content, rest) =>
          have := length_of_cutAtPair closed
          match readReference content with
          | .error _ => textParts before
          | .ok path => textParts before ++ .reference path :: collected rest
termination_by text.length
decreasing_by omega

variable {position : Nat} {parts : List TemplatePart} {inside : Text} {isPath : Text → Prop}

/-- Reading without the proofs that it ends. -/
theorem parseFrom_eq (position : Nat) (text : Text) :
    parseFrom position text =
      match cutAtPair '\x7b' text with
      | none => .ok (textParts text)
      | some (before, inside) =>
          match cutAtPair '\x7d' inside with
          | none => .error (position + before.length, .unterminated)
          | some (content, rest) =>
              match readReference content with
              | .error fault => .error (position + before.length, fault)
              | .ok path =>
                  (parseFrom (position + before.length + content.length + 4) rest).map
                    (textParts before ++ .reference path :: ·) := by
  conv_lhs => rw [parseFrom]
  split
  · next uncut => simp only [uncut]
  · next opened =>
      dsimp only
      split
      · next unclosed => simp only [opened, unclosed]
      · next content rest closed =>
          simp only [opened, closed]
          cases readReference content with
          | error fault => rfl
          | ok path => cases parseFrom _ rest <;> rfl

theorem collected_eq (text : Text) :
    collected text =
      match cutAtPair '\x7b' text with
      | none => textParts text
      | some (before, inside) =>
          match cutAtPair '\x7d' inside with
          | none => textParts before
          | some (content, rest) =>
              match readReference content with
              | .error _ => textParts before
              | .ok path => textParts before ++ .reference path :: collected rest := by
  conv_lhs => rw [collected]
  split
  · next uncut => simp only [uncut]
  · next opened =>
      dsimp only
      split
      · next unclosed => simp only [opened, unclosed]
      · next closed => simp only [opened, closed]

theorem cutAtPair_opening (first : ¬ HasPair '\x7b' (before ++ [CodePoint.char '\x7b'])) :
    cutAtPair '\x7b' (before ++ (opening ++ inside)) = some (before, inside) :=
  cutAtPair_append first

theorem cutAtPair_opening_front : cutAtPair '\x7b' (opening ++ inside) = some ([], inside) :=
  if_pos ⟨rfl, rfl⟩

theorem cutAtPair_closing (absent : CodePoint.char '\x7d' ∉ content) :
    cutAtPair '\x7d' (content ++ (closing ++ rest)) = some (content, rest) := by
  refine cutAtPair_append ?_
  rw [hasPair_append_mark_iff, not_or]
  exact ⟨not_hasPair_of_not_mem absent, fun last => absent (List.mem_of_getLast? last)⟩

/-- A text in front of a reference is read as a part of its own. -/
theorem parseFrom_append (first : ¬ HasPair '\x7b' (before ++ [CodePoint.char '\x7b'])) :
    parseFrom position (before ++ (opening ++ inside)) =
      (parseFrom (position + before.length) (opening ++ inside)).map (textParts before ++ ·) := by
  rw [parseFrom_eq, cutAtPair_opening first, parseFrom_eq _ (opening ++ inside),
    cutAtPair_opening_front]
  dsimp only
  split
  · rfl
  · split
    · rfl
    · simp only [List.length_nil, Nat.add_zero]
      cases parseFrom _ _ <;> rfl

/-- A reference between braces is read as a part of its own. -/
theorem parseFrom_interpolation (matching : isReference path = true)
    (leadBlank : Text.AllBlank lead) (trailBlank : Text.AllBlank trail) :
    parseFrom position (interpolation lead path trail ++ rest) =
      (parseFrom (position + (interpolation lead path trail).length) rest).map
        (.reference path :: ·) := by
  have whole : interpolation lead path trail ++ rest =
      opening ++ ((lead ++ (path ++ trail)) ++ (closing ++ rest)) := by
    simp [interpolation]
  have closed : cutAtPair '\x7d' (lead ++ (path ++ trail) ++ (closing ++ rest)) = _ :=
    cutAtPair_closing (brace_not_mem_padded (.inr rfl) matching leadBlank trailBlank)
  have read := readReference_eq_ok_iff.mpr ⟨matching, lead, trail, rfl, leadBlank, trailBlank⟩
  have size : position + ([] : Text).length + (lead ++ (path ++ trail)).length + 4 =
      position + (interpolation lead path trail).length := by
    simp [interpolation, opening, closing, Text.ofString, Text.ofChars]
    omega
  rw [whole, parseFrom_eq, cutAtPair_opening_front]
  simp only [closed, read, size]
  rfl

theorem wellFormed_nil : WellFormed isPath [] :=
  ⟨fun _ member => (List.not_mem_nil member).elim, .nil⟩

theorem wellFormed_cons_iff {part : TemplatePart} : WellFormed isPath (part :: parts) ↔
    IsProper isPath part ∧ (∀ next ∈ parts.head?, MayPrecede part next) ∧ WellFormed isPath parts := by
  constructor
  · rintro ⟨proper, apart⟩
    obtain ⟨first, others⟩ := List.forall_mem_cons.mp proper
    obtain ⟨ahead, chained⟩ := List.isChain_cons.mp apart
    exact ⟨first, ahead, others, chained⟩
  · rintro ⟨first, ahead, others, chained⟩
    exact ⟨List.forall_mem_cons.mpr ⟨first, others⟩, List.isChain_cons.mpr ⟨ahead, chained⟩⟩

/-- The text in front of a reference or at the end makes a part if it is filled. -/
theorem WellFormed.textParts (plain : ¬ HasPair '\x7b' content)
    (ahead : ∀ next ∈ parts.head?, MayPrecede (.text content) next)
    (wellFormed : WellFormed isPath parts) : WellFormed isPath (textParts content ++ parts) := by
  unfold Template.textParts
  split
  · exact wellFormed
  · next filled =>
      exact wellFormed_cons_iff.mpr ⟨⟨by simpa using filled, plain⟩, ahead, wellFormed⟩

theorem Writes.textParts (writes : Writes parts rest) :
    Writes (textParts content ++ parts) (content ++ rest) := by
  unfold Template.textParts
  split
  · next empty => rwa [List.isEmpty_iff.mp empty]
  · exact .text content writes

/-- Reading gives well-formed parts that the template writes. -/
theorem parseFrom_sound (parsed : parseFrom position text = .ok parts) :
    WellFormed (isReference · = true) parts ∧ Writes parts text := by
  fun_induction parseFrom position text generalizing parts with
  | case1 position text uncut =>
      cases parsed
      have plain := cutAtPair_eq_none_iff.mp uncut
      have wellFormed : WellFormed (isReference · = true) (textParts text ++ []) :=
        .textParts plain (by simp) wellFormed_nil
      have writes : Writes (textParts text ++ []) (text ++ []) := .textParts .nil
      simpa only [List.append_nil] using And.intro wellFormed writes
  | case2 => cases parsed
  | case3 => cases parsed
  | case4 => cases parsed
  | case5 =>
      rename_i text before inside opened _ _ content rest closed _ path read others ran ih
      cases parsed
      obtain ⟨wellFormed, writes⟩ := ih ran
      obtain ⟨matching, lead, trail, rfl, leadBlank, trailBlank⟩ := readReference_eq_ok_iff.mp read
      obtain ⟨plain, unended⟩ :=
        not_or.mp (hasPair_append_mark_iff.not.mp (not_hasPair_of_cutAtPair opened))
      have whole : text = before ++ (interpolation lead path trail ++ rest) := by
        rw [eq_append_of_cutAtPair opened, eq_append_of_cutAtPair closed]
        simp [interpolation, opening, closing, Text.ofString, Text.ofChars]
      refine ⟨.textParts plain ?_ ?_, ?_⟩
      · rintro next ⟨⟩
        exact unended
      · exact wellFormed_cons_iff.mpr ⟨matching, fun _ _ => trivial, wellFormed⟩
      · rw [whole]
        exact .textParts (.reference path leadBlank trailBlank writes)

/-- Whatever blanks stand around the references, reading gives the parts that were written. -/
theorem parseFrom_complete (wellFormed : WellFormed (isReference · = true) parts)
    (writes : Writes parts text) : parseFrom position text = .ok parts := by
  induction writes generalizing position with
  | nil =>
      rw [parseFrom_eq]
      rfl
  | @text content parts rest writes ih =>
      obtain ⟨⟨filled, plain⟩, ahead, others⟩ := wellFormed_cons_iff.mp wellFormed
      have single : textParts content = [.text content] := by
        simp [textParts, filled]
      cases writes with
      | nil => rw [List.append_nil, parseFrom_eq, cutAtPair_eq_none_iff.mpr plain, single]
      | text next _ => exact absurd (ahead _ rfl) id
      | @reference path lead trail rest parts _ _ _ =>
          have first : ¬ HasPair '\x7b' (content ++ [CodePoint.char '\x7b']) := by
            rw [hasPair_append_mark_iff, not_or]
            exact ⟨plain, ahead _ rfl⟩
          have step : parseFrom position (content ++ (interpolation lead path trail ++ rest)) =
              (parseFrom (position + content.length) (interpolation lead path trail ++ rest)).map
                (textParts content ++ ·) := by
            rw [interpolation, List.append_assoc]
            exact parseFrom_append first
          rw [step, ih others, single]
          rfl
  | reference path leadBlank trailBlank writes ih =>
      obtain ⟨matching, _, others⟩ := wellFormed_cons_iff.mp wellFormed
      rw [parseFrom_interpolation matching leadBlank trailBlank, ih others]
      rfl

/-- The text in front of the first pair of opening braces is all text. -/
theorem parseFrom_before (opened : cutAtPair '\x7b' text = some (before, inside)) :
    parseFrom position before = .ok (textParts before) := by
  have plain : ¬ HasPair '\x7b' before := fun pair =>
    not_hasPair_of_cutAtPair opened (hasPair_append_mark_iff.mpr (.inl pair))
  rw [parseFrom_eq, cutAtPair_eq_none_iff.mpr plain]

/-- A fault stands at a pair of opening braces. What is in front of it is read, and gives what had been
    collected. -/
theorem parseFrom_fault {place : Nat} {fault : TemplateFault}
    (failed : parseFrom position text = .error (place, fault)) :
    ∃ front inside, text = front ++ (opening ++ inside) ∧ place = position + front.length ∧
      ∀ start, parseFrom start front = .ok (collected text) := by
  fun_induction parseFrom position text with
  | case1 => cases failed
  | case2 =>
      rename_i text before inside opened _ _ closed
      obtain ⟨rfl, rfl⟩ := Prod.mk.inj (Except.error.inj failed)
      refine ⟨before, inside, eq_append_of_cutAtPair opened, rfl, fun start => ?_⟩
      rw [parseFrom_before opened, collected_eq text, opened]
      simp only [closed]
  | case3 =>
      rename_i text before inside opened _ _ content rest closed _ refusal read
      obtain ⟨rfl, rfl⟩ := Prod.mk.inj (Except.error.inj failed)
      refine ⟨before, inside, eq_append_of_cutAtPair opened, rfl, fun start => ?_⟩
      rw [parseFrom_before opened, collected_eq text, opened]
      simp only [closed, read]
  | case4 =>
      rename_i text before inside opened _ _ content rest closed _ path read later ran ih
      obtain rfl := Except.error.inj failed
      obtain ⟨front, others, isRest, isPlace, front_ok⟩ := ih ran
      refine ⟨before ++ (opening ++ (content ++ (closing ++ front))), others, ?_, ?_, fun start => ?_⟩
      · rw [eq_append_of_cutAtPair opened, eq_append_of_cutAtPair closed, isRest]
        simp [opening, closing, Text.ofString, Text.ofChars]
      · rw [isPlace]
        simp [opening, closing, Text.ofString, Text.ofChars]
        omega
      · have opened' : cutAtPair '\x7b' (before ++ (opening ++ (content ++ (closing ++ front)))) = _ :=
          cutAtPair_opening (not_hasPair_of_cutAtPair opened)
        have closed' : cutAtPair '\x7d' (content ++ (closing ++ front)) = some (content, front) :=
          cutAtPair_append (not_hasPair_of_cutAtPair closed)
        rw [parseFrom_eq, opened', collected_eq text, opened]
        simp only [closed', closed, read, front_ok]
        rfl
  | case5 => cases failed

theorem parse_eq_ok_iff : parse text = .ok parts ↔ parseFrom 0 text = .ok parts := by
  unfold parse
  cases parseFrom 0 text <;> simp

theorem parse_iff_wellFormed : parse text = .ok parts ↔
    WellFormed (isReference · = true) parts ∧ Writes parts text := by
  rw [parse_eq_ok_iff]
  exact ⟨parseFrom_sound, fun written => parseFrom_complete written.1 written.2⟩

/-- The pattern of references. Its end also matches in front of a line feed that ends the text. -/
def MatchesPattern (text : Text) : Prop :=
  isReference text = true ∨ ∃ path, isReference path = true ∧ text = path ++ [CodePoint.char '\n']

theorem isReference_iff : isReference path = true ↔
    MatchesPattern path ∧ path.getLast? ≠ some (.char '\n') := by
  constructor
  · intro matching
    refine ⟨.inl matching, fun last => ?_⟩
    have filled := (plain_of_isReference matching (List.mem_of_getLast? last)).1
    exact absurd filled (by decide)
  · rintro ⟨matching | ⟨front, _, rfl⟩, unended⟩
    · exact matching
    · exact absurd List.getLast?_concat unended

/-- Reading gives parts exactly if they are well formed, no reference ends in a line feed, and the
    template writes them with any blanks around the references. A fault is reported where a pair of
    opening braces stands, and the template up to there gives the parts that had been collected. -/
theorem parse_iff_written (template : Text) :
    (∀ parts, parse template = .ok parts ↔
      WellFormed (fun path => MatchesPattern path ∧ path.getLast? ≠ some (.char '\n')) parts ∧
        Writes parts template) ∧
    ∀ error, parse template = .error error →
      error.template = template ∧ opening <+: template.drop error.position ∧
        parse (template.take error.position) = .ok (collected template) := by
  refine ⟨fun parts => ?_, fun error failed => ?_⟩
  · simp only [← isReference_iff]
    exact parse_iff_wellFormed
  · unfold parse at failed
    split at failed
    · cases failed
    · next place fault ran =>
        cases failed
        obtain ⟨front, inside, whole, isPlace, front_ok⟩ := parseFrom_fault ran
        rw [Nat.zero_add] at isPlace
        subst isPlace
        refine ⟨rfl, ?_, ?_⟩
        · rw [whole, List.drop_left]
          exact List.prefix_append _ _
        · rw [whole, List.take_left, ← whole]
          exact parse_eq_ok_iff.mpr (front_ok 0)

theorem parse_iff_written_unclosed :
    parse "\x7b\x7b total.sum \x7d\x7d of \x7b\x7b" =
        .error ⟨"\x7b\x7b total.sum \x7d\x7d of \x7b\x7b", 19, .unterminated⟩ ∧
      parse "\x7b\x7b total.sum \x7d\x7d of " = .ok [.reference "total.sum", .text " of "] := by
  have failed : parse "\x7b\x7b total.sum \x7d\x7d of \x7b\x7b" =
      .error ⟨"\x7b\x7b total.sum \x7d\x7d of \x7b\x7b", 19, .unterminated⟩ := by
    with_unfolding_all rfl
  obtain ⟨_, _, front_ok⟩ := (parse_iff_written _).2 _ failed
  have isCollected : collected "\x7b\x7b total.sum \x7d\x7d of \x7b\x7b" =
      [.reference "total.sum", .text " of "] := by
    decide +kernel
  rw [isCollected] at front_ok
  exact ⟨failed, front_ok⟩

/-- A line feed at the end of a reference matches the pattern but is read as a blank. -/
theorem final_break_read_as_blank : ¬ ∀ (parts : List TemplatePart) (template : Text),
    WellFormed MatchesPattern parts → Writes parts template → parse template = .ok parts := by
  intro claimed
  have matching : MatchesPattern "a\n" := .inr ⟨"a", by decide +kernel, rfl⟩
  have wellFormed : WellFormed MatchesPattern [.reference "a\n"] :=
    wellFormed_cons_iff.mpr ⟨matching, by simp, wellFormed_nil⟩
  have writes : Writes [.reference "a\n"] (interpolation [] "a\n" [] ++ []) :=
    .reference _ (fun _ => nofun) (fun _ => nofun) .nil
  obtain ⟨⟨proper, _⟩, _⟩ := parse_iff_wellFormed.mp (claimed _ _ wellFormed writes)
  have whole : isReference "a\n" = true := proper _ List.mem_cons_self
  exact absurd whole (by decide +kernel)

end Template

end PageCompiler
