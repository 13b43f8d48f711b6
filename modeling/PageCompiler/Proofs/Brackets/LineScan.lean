/-
  Scanning a balanced text line by line.

  Layout forgets a scan at the end of a line and keeps only the depth and whether a template is open; it
  also drops the blanks around a line. Neither loses anything if the scan of the whole text is settled
  at every line break. So the depth after a line is that of the whole scan, and layout's bound at zero
  never acts.
-/
import PageCompiler.Proofs.Brackets.Balance

namespace PageCompiler.Layout

open Text (AllBlank LineEnd)

/-- What is known between two lines: the brackets opened so far less those closed, and whether a
    template is open. Unlike the depth of a cursor this one can fall below zero. -/
structure Progress where
  depth : Int
  inside : Bool
deriving DecidableEq, Repr

namespace Progress

def start : Progress := ⟨0, false⟩

/-- What layout scans of a line: all of it if it continues a template, otherwise what is left without
    the blanks around it. -/
def scanned (progress : Progress) (raw : Text) : Text :=
  if progress.inside then raw else Text.trim raw

/-- The scan at the end of a line. -/
def lineScan (progress : Progress) (raw : Text) : Scan :=
  (progress.scanned raw).foldl Scan.step
    ⟨0, if progress.inside then some spanningQuote else none, false⟩

/-- Layout's own scan of the line moves the depth and says whether a template goes on. -/
def next (progress : Progress) (raw : Text) : Progress :=
  let (change, inside) := scanLine progress.inside (progress.scanned raw)
  ⟨progress.depth + change, inside⟩

def after (lines : List Text) : Progress := lines.foldl next start

end Progress

/-- Where layout itself stands after some lines. -/
def cursorAfter (lines : List Text) : Cursor :=
  lines.foldl (fun cursor raw => (layoutLine cursor raw).2) .start

/-- A text whose brackets are well placed when it is scanned line by line. -/
structure WellBracketed (code : Text) : Prop where
  /-- After no line have more brackets been closed than opened. -/
  grounded : ∀ front, front <+: Text.splitLines code → 0 ≤ (Progress.after front).depth
  /-- So the depth that layout works with is never cut off at zero. -/
  unclamped : ∀ front, front <+: Text.splitLines code →
    ((cursorAfter front).depth : Int) = (Progress.after front).depth
  /-- At the end of a line no literal is open that cannot span lines. -/
  uncut : ∀ front line, front ++ [line] <+: Text.splitLines code →
    ∀ quote ∈ ((Progress.after front).lineScan line).quote, quote = spanningQuote
  /-- At the end everything is closed. -/
  closed : Progress.after (Text.splitLines code) = ⟨0, false⟩

/-- What of a scan is known between two lines. -/
def Scan.progress (scan : Scan) : Progress := ⟨scan.change, scan.quote == some spanningQuote⟩

variable {scan middle last : Scan} {point : CodePoint} {text line terminator rest : Text}

/-- The same scan from another depth on. -/
def Scan.raise (scan : Scan) (depth : Int) : Scan := { scan with change := depth + scan.change }

theorem step_raise (scan : Scan) (depth : Int) (point : CodePoint) :
    (scan.raise depth).step point = (scan.step point).raise depth := by
  obtain ⟨change, quote, escaped⟩ := scan
  simp only [Scan.step, Scan.raise]
  grind

theorem foldl_raise (scan : Scan) (depth : Int) (text : Text) :
    text.foldl Scan.step (scan.raise depth) = (text.foldl Scan.step scan).raise depth := by
  induction text generalizing scan with
  | nil => rfl
  | cons point rest ih => rw [List.foldl_cons, step_raise, ih, List.foldl_cons]

/-- Only quotes open literals, and only in a literal something is escaped. -/
structure Scan.Sound (scan : Scan) : Prop where
  quoted : ∀ quote ∈ scan.quote, isQuote quote = true
  unescaped : scan.quote = none → scan.escaped = false

theorem Scan.Settled.sound (settled : scan.Settled) : scan.Sound := by
  refine ⟨fun quote isOpen => ?_, fun _ => settled.1⟩
  rcases settled.2 with outside | inside
  · rw [outside] at isOpen
    cases isOpen
  · rw [inside] at isOpen
    cases isOpen
    rfl

theorem Scan.Sound.step (sound : scan.Sound) (point : CodePoint) : (scan.step point).Sound := by
  obtain ⟨change, quote, escaped⟩ := scan
  obtain ⟨quoted, unescaped⟩ := sound
  constructor
  · simp only [Scan.step] at quoted ⊢
    grind
  · simp only [Scan.step] at unescaped ⊢
    grind

theorem Scan.Sound.foldl (sound : scan.Sound) (text : Text) : (text.foldl Scan.step scan).Sound := by
  induction text generalizing scan with
  | nil => exact sound
  | cons point rest ih => exact ih (sound.step point)

/-- A blank moves nothing, except that it may be escaped. -/
theorem step_blank (sound : scan.Sound) (blank : Text.isBlank point = true) :
    scan.step point = { scan with escaped := false } := by
  have noBlank : ∀ mark ∈ marks, Text.isBlank mark = false := by decide
  obtain ⟨plain, noEscape⟩ := neutral_of_property noBlank blank
  simp only [isDelimiter, Bool.or_eq_false_iff] at plain
  obtain ⟨⟨unquoted, notOpener⟩, notCloser⟩ := plain
  obtain ⟨change, quote, escaped⟩ := scan
  cases quote with
  | none =>
      have unescaped : escaped = false := sound.unescaped rfl
      simp [Scan.step, unquoted, notOpener, notCloser, unescaped]
  | some quote =>
      have differs : point ≠ quote := by
        rintro rfl
        rw [sound.quoted point rfl] at unquoted
        cases unquoted
      cases escaped <;> simp [Scan.step, noEscape, differs]

/-- Blanks move neither the depth nor the literal that is open. -/
theorem foldl_blank (sound : scan.Sound) (blank : AllBlank text) :
    (text.foldl Scan.step scan).change = scan.change ∧
      (text.foldl Scan.step scan).quote = scan.quote := by
  induction text generalizing scan with
  | nil => exact ⟨rfl, rfl⟩
  | cons point rest ih =>
      rw [List.foldl_cons, step_blank sound (blank point List.mem_cons_self)]
      exact @ih { scan with escaped := false } ⟨sound.quoted, fun _ => rfl⟩
        fun other member => blank other (.tail _ member)

/-- At a place where a line can end they move nothing at all. -/
theorem foldl_blank_of_settled (settled : scan.Settled) (blank : AllBlank text) :
    text.foldl Scan.step scan = scan := by
  have unescaped : { scan with escaped := false } = scan := by
    rw [← settled.1]
  induction text with
  | nil => rfl
  | cons point rest ih =>
      rw [List.foldl_cons, step_blank settled.sound (blank point List.mem_cons_self), unescaped]
      exact ih fun other member => blank other (.tail _ member)

/-- Without the blanks around it a line has the same depth and leaves the same literal open. -/
theorem foldl_trim (settled : scan.Settled) (line : Text) :
    ((Text.trim line).foldl Scan.step scan).change = (line.foldl Scan.step scan).change ∧
      ((Text.trim line).foldl Scan.step scan).quote = (line.foldl Scan.step scan).quote := by
  obtain ⟨lead, trail, isText, isLine, leadBlank, trailBlank⟩ := Text.trim_spec line
  -- The scan is settled in front of the line but perhaps not behind it: an escape can be pending there,
  -- and a blank ends it. So of the end only the depth and the literal are the same.
  obtain ⟨change, quote⟩ := foldl_blank (settled.sound.foldl (Text.trim line)) trailBlank
  have whole : line.foldl Scan.step scan =
      trail.foldl Scan.step ((Text.trim line).foldl Scan.step scan) := by
    conv_lhs => rw [isText, isLine, List.foldl_append, foldl_blank_of_settled settled leadBlank,
      List.foldl_append]
  rw [whole]
  exact ⟨change.symm, quote.symm⟩

/-- The scan of a line ends at the depth and in the literal of the scan of the whole text. -/
theorem lineScan_spec (settled : scan.Settled) (line : Text) :
    scan.change + (scan.progress.lineScan line).change = (line.foldl Scan.step scan).change ∧
      (scan.progress.lineScan line).quote = (line.foldl Scan.step scan).quote := by
  have start : Scan.raise ⟨0, if scan.progress.inside then some spanningQuote else none, false⟩
      scan.change = scan := by
    obtain ⟨change, quote, escaped⟩ := scan
    obtain ⟨unescaped, outside | inside⟩ := settled <;> simp_all [Scan.raise, Scan.progress]
  have moved : (scan.progress.lineScan line).raise scan.change =
      (scan.progress.scanned line).foldl Scan.step scan := by
    rw [Progress.lineScan, ← foldl_raise, start]
  have change : scan.change + (scan.progress.lineScan line).change =
      ((scan.progress.lineScan line).raise scan.change).change := rfl
  have quote : (scan.progress.lineScan line).quote =
      ((scan.progress.lineScan line).raise scan.change).quote := rfl
  rw [change, quote, moved, Progress.scanned]
  split
  · exact ⟨rfl, rfl⟩
  · exact foldl_trim settled line

theorem next_progress (settled : scan.Settled) (line : Text) :
    scan.progress.next line = (line.foldl Scan.step scan).progress := by
  obtain ⟨change, quote⟩ := lineScan_spec settled line
  rw [Scan.progress.eq_1 (line.foldl Scan.step scan), ← change, ← quote]
  rfl

/-- The end of a line. -/
theorem Leads.lineEnd {floor : Int} (leads : Leads floor scan (line ++ (terminator ++ rest)) last)
    (ended : LineEnd terminator rest) :
    (line.foldl Scan.step scan).Settled ∧ floor ≤ (line.foldl Scan.step scan).change ∧
      Leads floor (line.foldl Scan.step scan) rest last := by
  obtain ⟨middle, first, second⟩ := leads.split
  rw [first.foldl_eq]
  have settled : middle.Settled := by
    cases ended with
    | pair =>
        cases second with
        | read _ settled _ => exact settled rfl
    | single boundary =>
        cases second with
        | read _ settled _ => exact settled boundary
  -- The terminator itself is blank, and the scan is settled before it.
  obtain ⟨next, passed, third⟩ := second.split
  have same := passed.foldl_eq
  rw [foldl_blank_of_settled settled ended.blank] at same
  subst same
  exact ⟨settled, passed.above_start, third⟩

/-- After some of its lines the scan of a text is settled, and the rest of the text follows. -/
theorem progress_of_leads {code : Text} {front back : List Text}
    (isLines : Text.Lines code (front ++ back)) (leads : Leads 0 scan code last)
    (settled : scan.Settled) :
    ∃ middle rest, front.foldl Progress.next scan.progress = middle.progress ∧ middle.Settled ∧
      Leads 0 middle rest last ∧ Text.Lines rest back := by
  induction front generalizing scan code with
  | nil => exact ⟨scan, code, rfl, settled, leads, isLines⟩
  | cons line front ih =>
      cases isLines with
      | cons _ ended others =>
          obtain ⟨settledLater, _, later⟩ := leads.lineEnd ended
          rw [List.foldl_cons, next_progress settled]
          exact ih others later settledLater

/-- How layout goes on over a line. -/
theorem layoutLine_moves {cursor : Cursor} {progress : Progress}
    (inside : cursor.inside = progress.inside) (raw : Text) :
    (layoutLine cursor raw).2.depth = movedDepth cursor.depth (progress.lineScan raw).change ∧
      (layoutLine cursor raw).2.inside = (progress.next raw).inside := by
  obtain ⟨depth, isInside⟩ := progress
  cases inside
  cases isInside : cursor.inside with
  | true => simp [layoutLine, isInside, Progress.next, Progress.lineScan, Progress.scanned, scanLine]
  | false =>
      by_cases blank : Text.trim raw = []
      · simp [layoutLine, isInside, Progress.next, Progress.lineScan, Progress.scanned, scanLine, blank,
          movedDepth]
      · simp [layoutLine, isInside, Progress.next, Progress.lineScan, Progress.scanned, scanLine, blank]

/-- As long as the depth does not fall below zero, layout works with the depth itself. -/
theorem cursorAfter_eq {lines : List Text}
    (grounded : ∀ front, front <+: lines → 0 ≤ (Progress.after front).depth) :
    ((cursorAfter lines).depth : Int) = (Progress.after lines).depth ∧
      (cursorAfter lines).inside = (Progress.after lines).inside := by
  induction lines using List.reverseRecOn with
  | nil => exact ⟨rfl, rfl⟩
  | append_singleton lines line ih =>
      obtain ⟨depth, inside⟩ :=
        ih fun front isFront => grounded front (isFront.trans (List.prefix_append _ _))
      have above := grounded _ List.prefix_rfl
      have progress : Progress.after (lines ++ [line]) = (Progress.after lines).next line :=
        List.foldl_concat ..
      have cursor : cursorAfter (lines ++ [line]) = (layoutLine (cursorAfter lines) line).2 :=
        List.foldl_concat ..
      obtain ⟨moved, goesOn⟩ := layoutLine_moves inside line
      rw [progress] at above ⊢
      rw [cursor, moved]
      refine ⟨?_, goesOn⟩
      change 0 ≤ (Progress.after lines).depth + ((Progress.after lines).lineScan line).change at above
      rw [movedDepth, depth, Int.toNat_of_nonneg above]
      rfl

/-- A balanced text that ends with a line feed is well bracketed line by line. -/
theorem Balanced.wellBracketed {code : Text} (balanced : Balanced code)
    (ended : ∀ point ∈ code.getLast?, point = .char '\n') : WellBracketed code := by
  have isLines := Text.lines_splitLines ended
  have leads : Leads 0 ⟨0, none, false⟩ code ⟨0, none, false⟩ := balanced 0
  have reached : ∀ front back, front ++ back = Text.splitLines code →
      ∃ middle rest, Progress.after front = middle.progress ∧ middle.Settled ∧
        Leads 0 middle rest ⟨0, none, false⟩ ∧ Text.Lines rest back := by
    intro front back whole
    rw [← whole] at isLines
    exact progress_of_leads isLines leads ⟨rfl, .inl rfl⟩
  have grounded : ∀ front, front <+: Text.splitLines code → 0 ≤ (Progress.after front).depth := by
    rintro front ⟨back, whole⟩
    obtain ⟨middle, rest, isProgress, _, later, _⟩ := reached front back whole
    rw [isProgress]
    exact later.above_start
  refine ⟨grounded, fun front isFront => ?unclamped, ?uncut, ?closed⟩
  case unclamped =>
    exact (cursorAfter_eq fun other isOther => grounded other (isOther.trans isFront)).1
  case uncut =>
    rintro front line ⟨back, whole⟩ quote isOpen
    obtain ⟨middle, rest, isProgress, settled, later, others⟩ :=
      reached front (line :: back) (by rw [← whole, List.append_assoc, List.singleton_append])
    cases others with
    | cons _ ended _ =>
        obtain ⟨⟨_, outside | inside⟩, _⟩ := later.lineEnd ended
        · rw [isProgress, (lineScan_spec settled line).2, outside] at isOpen
          cases isOpen
        · rw [isProgress, (lineScan_spec settled line).2, inside] at isOpen
          cases isOpen
          rfl
  case closed =>
    obtain ⟨middle, rest, isProgress, _, later, others⟩ := reached _ [] (List.append_nil _)
    cases others
    have isLast : middle = ⟨0, none, false⟩ := later.foldl_eq
    rw [isProgress, isLast]
    rfl

end PageCompiler.Layout
