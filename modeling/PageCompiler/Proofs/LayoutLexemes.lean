/-
  Layout keeps the lexemes of a module.

  Layout works line by line, and at the start of a line only a template literal can be open. So the
  lexemes of a text are those of its lines, each cut with the literal that the lines before it leave
  open, and layout does to the lexemes of a line what `Lexeme.LaidOut` says. The marks stay in any
  case. If no literal was cut off after a blank, the literals stay exactly if the line breaks in
  templates are line feeds (`compilePage_pretty_lexemes`); a template that holds another line break
  becomes another literal (`pretty_literals_differ`).
-/
import PageCompiler.Proofs.Lexemes
import PageCompiler.Proofs.PageRun

namespace PageCompiler

open Layout

namespace Cutter

open Text (AllBlank LineEnd Unbroken)

variable {cutter plain pretty : Cutter} {literal : OpenLiteral} {point : CodePoint}
  {text trail terminator rest : Text}

theorem run_blank (outside : cutter.literal = none) (blank : AllBlank text) :
    cutter.run text = cutter := by
  induction text with
  | nil => rfl
  | cons point rest ih =>
      rw [run_cons, step_blank outside (blank point List.mem_cons_self)]
      exact ih fun other member => blank other (.tail _ member)

theorem closedBy_blank (blank : Text.isBlank point = true) : literal.closedBy point = false := by
  have differs : point ≠ literal.quote := by
    rintro rfl
    rw [not_isBlank_of_isQuote literal.quoted] at blank
    cases blank
  simp [OpenLiteral.closedBy, differs]

/-- The blanks at the end of a line belong to a literal that is open there. -/
theorem run_trail (inside : cutter.literal = some literal) (blank : AllBlank text)
    (unbroken : Unbroken text) :
    ∃ escaped, cutter.run text = { cutter with literal := some (literal.add text escaped) } := by
  induction text generalizing cutter literal with
  | nil =>
      refine ⟨literal.escaped, ?_⟩
      simp [OpenLiteral.add, ← inside, run]
  | cons point rest ih =>
      have read : cutter.step point = { cutter with literal := some (literal.read point) } := by
        rw [step_unbroken inside (unbroken point List.mem_cons_self),
          closedBy_blank (blank point List.mem_cons_self)]
        rfl
      obtain ⟨escaped, ran⟩ := @ih { cutter with literal := some (literal.read point) } _ rfl
        (fun other member => blank other (.tail _ member))
        (fun other member => unbroken other (.tail _ member))
      refine ⟨escaped, ?_⟩
      rw [run_cons, read, ran]
      simp [OpenLiteral.read, OpenLiteral.add]

/-- Whether a template literal is open. -/
def spans (cutter : Cutter) : Bool := cutter.literal.any fun literal => decide literal.spans

theorem spans_trail (blank : AllBlank text) (unbroken : Unbroken text) :
    (cutter.run text).spans = cutter.spans := by
  cases inside : cutter.literal with
  | none => rw [run_blank inside blank]
  | some literal =>
      obtain ⟨escaped, ran⟩ := run_trail inside blank unbroken
      rw [ran, spans, spans, inside]
      rfl

/-! The end of a line: outside of literals it is skipped, a template goes on over it and any other
literal is cut off. -/

theorem run_lineEnd (ended : LineEnd terminator rest) (outside : cutter.literal = none) :
    cutter.run terminator = cutter :=
  run_blank outside ended.blank

theorem run_lineEnd_of_spans (ended : LineEnd terminator rest)
    (inside : cutter.literal = some literal) (spans : literal.spans) :
    cutter.run terminator = { cutter with literal := some (literal.add terminator false) } := by
  cases ended with
  | pair =>
      change (cutter.step (.char '\r')).step (.char '\n') = _
      rw [step_break inside rfl, if_pos spans, step_break rfl rfl,
        if_pos (OpenLiteral.spans_add.mpr spans)]
      simp [OpenLiteral.add, Text.ofString, Text.ofChars]
  | single boundary => rw [run_singleton, step_break inside boundary, if_pos spans]

theorem run_lineEnd_of_not_spans (ended : LineEnd terminator rest)
    (inside : cutter.literal = some literal) (cut : ¬ literal.spans) :
    cutter.run terminator = cutter.close literal := by
  cases ended with
  | pair =>
      change (cutter.step (.char '\r')).step (.char '\n') = _
      rw [step_break inside rfl, if_neg cut, step_blank rfl rfl]
  | single boundary => rw [run_singleton, step_break inside boundary, if_neg cut]

theorem spans_lineEnd (ended : LineEnd terminator rest) :
    (cutter.run terminator).spans = cutter.spans := by
  cases inside : cutter.literal with
  | none => rw [run_lineEnd ended inside]
  | some literal =>
      by_cases goesOn : literal.spans
      · rw [run_lineEnd_of_spans ended inside goesOn, spans, spans, inside]
        rfl
      · simp [run_lineEnd_of_not_spans ended inside goesOn, spans, close, inside, goesOn]

/-- Between two lines only a template literal can be open, nothing is escaped, and no pair of carriage
    return and line feed is cut. -/
def BetweenLines (cutter : Cutter) (rest : Text) : Prop :=
  ∀ literal ∈ cutter.literal, literal.spans ∧ literal.escaped = false ∧ Text.Uncut literal.text rest

theorem betweenLines_of_outside (outside : cutter.literal = none) : cutter.BetweenLines rest := by
  simp [BetweenLines, outside]

theorem betweenLines_lineEnd (ended : LineEnd terminator rest) :
    (cutter.run terminator).BetweenLines rest := by
  cases inside : cutter.literal with
  | none =>
      rw [run_lineEnd ended inside]
      exact betweenLines_of_outside inside
  | some literal =>
      by_cases goesOn : literal.spans
      · rw [run_lineEnd_of_spans ended inside goesOn]
        rintro _ ⟨⟩
        exact ⟨goesOn, rfl, ended.uncut⟩
      · rw [run_lineEnd_of_not_spans ended inside goesOn]
        exact betweenLines_of_outside rfl

/-- What ends a line becomes a line feed. -/
theorem LaidOut.lineEnd (laid : LaidOut plain pretty) (ended : LineEnd terminator rest)
    (uncut : ∀ literal ∈ plain.literal, Text.Uncut literal.text (terminator ++ rest)) :
    LaidOut (plain.run terminator) (pretty.step (.char '\n')) := by
  cases inside : plain.literal with
  | none =>
      rw [run_lineEnd ended inside, step_blank (laid.outside inside) rfl]
      exact laid
  | some literal =>
      rw [step_break (laid.inside inside) rfl]
      by_cases goesOn : literal.spans
      · have uncut' : Text.Uncut literal.text terminator := by
          cases ended <;> exact uncut literal inside
        rw [run_lineEnd_of_spans ended inside goesOn, if_pos (OpenLiteral.spans_laidOut.mpr goesOn)]
        refine ⟨laid.lexemes, congrArg some ?_⟩
        rw [OpenLiteral.laidOut_add_of_spans goesOn uncut', ended.unifyBreaks_eq]
      · rw [run_lineEnd_of_not_spans ended inside goesOn,
          if_neg (mt OpenLiteral.spans_laidOut.mp goesOn)]
        exact laid.close literal.lexeme_laidOut

/-- A line that is written as it stands. -/
theorem LaidOut.line (laid : LaidOut plain pretty) (ended : LineEnd terminator rest)
    (unbroken : Unbroken text) (between : plain.BetweenLines (text ++ (terminator ++ rest))) :
    LaidOut (plain.run (text ++ terminator)) (pretty.run (text ++ ("\n" : Text))) := by
  rw [run_append, run_append]
  refine (laid.run unbroken).lineEnd ended ?_
  intro literal inside
  cases text using List.reverseRecOn with
  | nil => exact (between literal inside).2.2
  | append_singleton start last =>
      rw [run_append] at inside
      intro isReturn
      have ends := getLast?_of_step inside
      rw [isReturn] at ends
      cases ends
      cases unbroken (.char '\r') (by simp)

/-- A line without the blanks at its end, which belong to no template. -/
theorem LaidOut.trimmedLine (laid : LaidOut plain pretty) (ended : LineEnd terminator rest)
    (unbroken : Unbroken (text ++ trail)) (outside : plain.literal = none) (blank : AllBlank trail)
    (cut : (plain.run text).spans = false) :
    LaidOut (plain.run (text ++ trail ++ terminator)) (pretty.run (text ++ ("\n" : Text))) := by
  obtain ⟨textUnbroken, trailUnbroken⟩ := List.forall_mem_append.mp unbroken
  rw [run_append, run_append]
  cases inside : (plain.run text).literal with
  | none =>
      rw [run_blank inside blank, ← run_append]
      exact laid.line ended textUnbroken (betweenLines_of_outside outside)
  | some literal =>
      have laidText := laid.run textUnbroken
      have string : ¬ literal.spans := by simpa [spans, inside] using cut
      obtain ⟨escaped, ran⟩ := run_trail inside blank trailUnbroken
      rw [ran, run_lineEnd_of_not_spans ended rfl (mt OpenLiteral.spans_add.mp string), run_append]
      change LaidOut _ (Cutter.step _ (.char '\n'))
      rw [step_break (laidText.inside inside) rfl, OpenLiteral.laidOut_of_not_spans string,
        if_neg string]
      -- The blanks are part of the literal that the line end cuts off, and layout drops them.
      refine laidText.close ?_
      rw [OpenLiteral.lexeme, if_neg (mt OpenLiteral.spans_add.mp string), OpenLiteral.lexeme,
        if_neg string]
      exact .string _ blank

/-- A scan of a line and the cutter agree on the literal that is open. -/
structure Seen (scan : Scan) (cutter : Cutter) : Prop where
  quote : scan.quote = cutter.literal.map (·.quote)
  escaped : scan.escaped = cutter.literal.any (·.escaped)

theorem Seen.step {scan : Scan} (seen : Seen scan cutter)
    (unbroken : Text.isLineBoundary point = false) : Seen (scan.step point) (cutter.step point) := by
  obtain ⟨change, quote, escaped⟩ := scan
  obtain ⟨sameQuote, sameEscaped⟩ := seen
  cases inside : cutter.literal with
  | none =>
      rw [inside] at sameQuote sameEscaped
      cases sameQuote
      cases sameEscaped
      cases quoted : isQuote point with
      | true =>
          rw [step_quote inside quoted, Scan.step, if_pos quoted]
          exact ⟨rfl, rfl⟩
      | false =>
          constructor <;> rw [literal_step_of_not_quote inside quoted]
          · simp only [Scan.step, quoted]
            grind
          · simp only [Scan.step, quoted]
            grind
  | some literal =>
      rw [inside] at sameQuote sameEscaped
      cases sameQuote
      cases sameEscaped
      have backslash : isQuote (.char '\\') = false := rfl
      have quoted := literal.quoted
      rw [step_unbroken inside unbroken]
      constructor
      · simp only [Scan.step, OpenLiteral.closedBy, OpenLiteral.read, OpenLiteral.add, close]
        grind
      · simp only [Scan.step, OpenLiteral.closedBy, OpenLiteral.read, OpenLiteral.add, close]
        grind

theorem Seen.run {scan : Scan} (seen : Seen scan cutter) (unbroken : Unbroken text) :
    Seen (text.foldl Scan.step scan) (cutter.run text) := by
  induction text generalizing scan cutter with
  | nil => exact seen
  | cons point others ih =>
      exact ih (seen.step (unbroken point List.mem_cons_self))
        fun other member => unbroken other (.tail _ member)

/-- The scan of a line knows whether a template literal is open at its end. -/
theorem scanLine_spans (between : cutter.BetweenLines rest) (unbroken : Unbroken text) :
    (scanLine cutter.spans text).2 = (cutter.run text).spans := by
  have start : Seen ⟨0, if cutter.spans then some spanningQuote else none, false⟩ cutter := by
    cases inside : cutter.literal with
    | none => constructor <;> simp [spans, inside]
    | some literal =>
        obtain ⟨goesOn, unescaped, _⟩ := between literal inside
        constructor
        · simp [spans, inside, goesOn, show literal.quote = spanningQuote from goesOn]
        · simp [inside, unescaped]
  have final := (start.run unbroken).quote
  change ((text.foldl Scan.step _).quote == _) = _
  rw [final, spans]
  cases (cutter.run text).literal <;> rfl

end Cutter

namespace Layout

variable {cursor : Cursor} {raw : Text}

theorem isBlank_indentation (depth : Nat) : Text.AllBlank (indentation depth) := by
  intro point member
  obtain ⟨unit, isUnit, member⟩ := List.mem_flatten.mp member
  rw [List.eq_of_mem_replicate isUnit] at member
  have all : ∀ other ∈ indentUnit, Text.isBlank other = true := by decide
  exact all point member

/-- The lines as they are written, each with its line feed. -/
def written (lines : List Text) : Text := lines.flatMap (· ++ ("\n" : Text))

theorem written_append (left right : List Text) :
    written (left ++ right) = written left ++ written right :=
  List.flatMap_append

theorem layoutLine_inside (inside : cursor.inside = true) (raw : Text) :
    written (layoutLine cursor raw).1 = raw ++ ("\n" : Text) ∧
      (layoutLine cursor raw).2.inside = (scanLine true raw).2 := by
  simp [layoutLine, inside, written]

theorem layoutLine_blank (outside : cursor.inside = false) (blank : Text.trim raw = []) :
    layoutLine cursor raw = ([], cursor) := by
  simp [layoutLine, outside, blank]

/-- A line outside of templates is written after blanks, without blanks of its own at its start, and
    at its end with them only if a template goes on there. -/
theorem layoutLine_outside (outside : cursor.inside = false) (filled : Text.trim raw ≠ []) :
    ∃ lead, Text.AllBlank lead ∧
      written (layoutLine cursor raw).1 =
        lead ++ ((if (scanLine false (Text.trim raw)).2 then Text.trimLeft raw else Text.trim raw)
          ++ ("\n" : Text)) ∧
      (layoutLine cursor raw).2.inside = (scanLine false (Text.trim raw)).2 := by
  have notEmpty : (Text.trim raw).isEmpty = false := by simpa using filled
  let separator : Text := if cursor.afterImport && !isImport (Text.trim raw) then "\n" else []
  let depth := cursor.depth - ((Text.trim raw).takeWhile isCloser).length
  refine ⟨separator ++ indentation depth, ?_, ?_, ?_⟩
  · refine List.forall_mem_append.mpr ⟨?_, isBlank_indentation depth⟩
    unfold separator
    split <;> decide
  · simp only [layoutLine, outside, notEmpty, written, separator]
    cases cursor.afterImport && !isImport (Text.trim raw) <;> simp [depth]
  · simp [layoutLine, outside, notEmpty]

end Layout

namespace Cutter

open Text (AllBlank LineEnd Unbroken)

variable {plain pretty : Cutter} {text trail terminator rest : Text} {cursor : Cursor}

/-- A line outside of templates, cut at its last code point that is not blank. -/
theorem LaidOut.outsideLine (laid : LaidOut plain pretty) (ended : LineEnd terminator rest)
    (unbroken : Unbroken (text ++ trail)) (outside : plain.literal = none)
    (blank : AllBlank trail) :
    LaidOut (plain.run (text ++ trail ++ terminator))
      (pretty.run ((if (plain.run text).spans then text ++ trail else text) ++ ("\n" : Text))) := by
  split
  · exact laid.line ended unbroken (betweenLines_of_outside outside)
  · next cut =>
      exact laid.trimmedLine ended unbroken outside blank (Bool.eq_false_iff.mpr cut)

/-- What layout writes for a line has the lexemes of the line. -/
theorem LaidOut.layoutLine (laid : LaidOut plain pretty) (ended : LineEnd terminator rest)
    (unbroken : Unbroken text) (between : plain.BetweenLines (text ++ (terminator ++ rest)))
    (follows : cursor.inside = plain.spans) :
    LaidOut (plain.run (text ++ terminator)) (pretty.run (written (layoutLine cursor text).1)) ∧
      (layoutLine cursor text).2.inside = (plain.run (text ++ terminator)).spans := by
  cases inside : plain.spans with
  | true =>
      obtain ⟨lines, next⟩ := layoutLine_inside (follows.trans inside) text
      rw [lines, next, ← inside, scanLine_spans between unbroken, run_append plain,
        spans_lineEnd ended, ← run_append]
      exact ⟨laid.line ended unbroken between, rfl⟩
  | false =>
      have outside : plain.literal = none := by
        cases literal : plain.literal with
        | none => rfl
        | some opened => simp [spans, literal, (between opened literal).1] at inside
      obtain ⟨lead, trail, isText, isLine, leadBlank, trailBlank⟩ := Text.trim_spec text
      have lineUnbroken : Unbroken (Text.trim text ++ trail) := by
        intro point member
        refine unbroken point ?_
        rw [isText, isLine]
        exact List.mem_append_right _ member
      obtain ⟨coreUnbroken, trailUnbroken⟩ := List.forall_mem_append.mp lineUnbroken
      have skipLead : plain.run (text ++ terminator) =
          plain.run (Text.trim text ++ trail ++ terminator) := by
        conv_lhs => rw [isText, isLine, List.append_assoc, run_append, run_blank outside leadBlank]
      have atEnd : (plain.run (text ++ terminator)).spans = (plain.run (Text.trim text)).spans := by
        rw [skipLead, run_append, spans_lineEnd ended, run_append,
          spans_trail trailBlank trailUnbroken]
      rw [atEnd, skipLead]
      by_cases filled : Text.trim text = []
      · rw [layoutLine_blank (follows.trans inside) filled, filled, follows, List.nil_append,
          run_append, run_blank outside trailBlank, run_lineEnd ended outside]
        exact ⟨laid, rfl⟩
      · obtain ⟨indent, indentBlank, lines, next⟩ :=
          layoutLine_outside (follows.trans inside) filled
        have scanned := scanLine_spans between coreUnbroken
        rw [inside] at scanned
        rw [lines, next, scanned, run_append pretty, run_blank (laid.outside outside) indentBlank,
          isLine]
        exact ⟨laid.outsideLine ended lineUnbroken outside trailBlank, rfl⟩

/-- Line by line, layout keeps the lexemes of a text. -/
theorem LaidOut.layoutLines {code : Text} {lines : List Text} (isLines : Text.Lines code lines)
    (laid : LaidOut plain pretty) (between : plain.BetweenLines code)
    (follows : cursor.inside = plain.spans) :
    LaidOut (plain.run code) (pretty.run (written (layoutLines cursor lines))) := by
  induction isLines generalizing cursor plain pretty with
  | nil => exact laid
  | cons unbroken ended _ ih =>
      obtain ⟨laidLine, follows⟩ := laid.layoutLine ended unbroken between follows
      rw [← List.append_assoc, run_append, Layout.layoutLines, written_append, run_append pretty]
      refine ih laidLine ?_ follows
      rw [run_append]
      exact betweenLines_lineEnd ended

end Cutter

theorem intercalate_append_feed {lines : List Text} (some : lines ≠ []) :
    List.intercalate "\n" lines ++ ("\n" : Text) = written lines := by
  induction lines with
  | nil => exact absurd rfl some
  | cons line rest ih =>
      cases rest with
      | nil => simp [written]
      | cons next others =>
          rw [List.intercalate_cons_cons, List.append_assoc, List.append_assoc, ih (by simp)]
          simp [written]

theorem run_format (code : Text) :
    Cutter.start.run (Layout.format code) =
      Cutter.start.run (written (layoutLines .start (Text.splitLines code))) := by
  rw [Layout.format]
  by_cases some : layoutLines .start (Text.splitLines code) = []
  · rw [some]
    rfl
  · rw [intercalate_append_feed some]

/-- Layout keeps the lexemes of a text that ends with a line feed. -/
theorem laidOut_format {code : Text} (ended : ∀ point ∈ code.getLast?, point = .char '\n') :
    List.Forall₂ Lexeme.LaidOut (lexemes code) (lexemes (Layout.format code)) := by
  have start : Cutter.LaidOut .start .start := ⟨.nil, rfl⟩
  rw [lexemes, lexemes, run_format]
  exact (start.layoutLines (Text.lines_splitLines ended) (Cutter.betweenLines_of_outside rfl)
    rfl).finish

theorem moduleText_ended (header appName : Text) (body : List Text) (root : Text) :
    ∀ point ∈ (moduleText header appName body root).getLast?, point = .char '\n' := by
  intro point last
  change point ∈ (_ ++ [CodePoint.char '\n']).getLast? at last
  rw [List.getLast?_concat] at last
  cases last
  rfl

theorem compilePage_pretty_result (document : Document) (pageId : Text) (editor : Bool)
    (catalog : Catalog) :
    (compilePage document pageId ⟨editor, true⟩ catalog).result =
      (compilePage document pageId ⟨editor, false⟩ catalog).result.map Layout.format := by
  simp only [compilePage]
  split
  · rfl
  · split <;> rfl

/-- A page that compiles also compiles to laid out text. The marks of the two texts are the same. If
    no string of the plain text ends in a blank, their literals are the same exactly if every line
    break in a template of the plain text is a line feed. -/
theorem compilePage_pretty_lexemes {document : Document} {pageId : Text} {editor : Bool}
    {catalog : Catalog} {plain : Text}
    (compiled : (compilePage document pageId ⟨editor, false⟩ catalog).result = .ok plain) :
    ∃ pretty, (compilePage document pageId ⟨editor, true⟩ catalog).result = .ok pretty ∧
      marks pretty = marks plain ∧
      ((∀ text ∈ strings plain, Text.EndsFilled text) →
        (literals pretty = literals plain ↔ ∀ text ∈ templates plain, Text.FeedsOnly text)) := by
  obtain ⟨run, rfl⟩ := exists_pageRun compiled
  have laid := laidOut_format (moduleText_ended run.header run.env.appName run.body run.root)
  refine ⟨_, by rw [compilePage_pretty_result, compiled]; rfl, ?_, ?_⟩
  · exact Lexeme.filterMap_mark?_of_laidOut laid
  · exact Lexeme.filterMap_literal?_of_laidOut laid

namespace Note

/-- A note, written as a template literal. -/
def note (text : Text) : Node :=
  ⟨"note", "note", .ofList [("value", some (.template text (some "stringLiteral")))],
    some "page", none, none, .element "Typography"⟩

def page : Node := ⟨"page", "page", .empty, none, none, none, .page []⟩

def document (text : Text) : Document := .ofList [("page", page), ("note", note text)]

end Note

theorem compilePage_pretty_lexemes_note : ∃ plain pretty,
    (compilePage (Note.document "two words") "page" ⟨false, false⟩ Catalog.builtin).result =
        .ok plain ∧
      (compilePage (Note.document "two words") "page" ⟨false, true⟩ Catalog.builtin).result =
        .ok pretty ∧
      marks pretty = marks plain ∧ literals pretty = literals plain := by
  have checked :
      (compilePage (Note.document "two words") "page" ⟨false, false⟩
        Catalog.builtin).result.toOption.any
        (fun text => (∀ string ∈ strings text, Text.EndsFilled string) ∧
          ∀ template ∈ templates text, Text.FeedsOnly template) = true := by
    decide +kernel
  obtain ⟨plain, compiled, kept⟩ := Outcome.exists_text checked
  obtain ⟨filled, fed⟩ := of_decide_eq_true kept
  obtain ⟨pretty, prettyCompiled, sameMarks, sameLiterals⟩ := compilePage_pretty_lexemes compiled
  exact ⟨plain, pretty, compiled, prettyCompiled, sameMarks, (sameLiterals filled).mpr fed⟩

/-- A line separator in a template becomes a line feed, so that the literal of the laid out text is
    another. -/
theorem pretty_literals_differ : ¬ ∀ (document : Document) (pageId : Text) (editor : Bool)
    (plain pretty : Text), document.Keyed →
      (compilePage document pageId ⟨editor, false⟩ Catalog.builtin).result = .ok plain →
      (compilePage document pageId ⟨editor, true⟩ Catalog.builtin).result = .ok pretty →
      literals pretty = literals plain ∧ marks pretty = marks plain := by
  intro claimed
  have differ :
      (compilePage (Note.document "first\u2028second") "page" ⟨false, false⟩
        Catalog.builtin).result.toOption.any
        (fun plain => literals (Layout.format plain) ≠ literals plain) = true := by
    decide +kernel
  obtain ⟨plain, compiled, changed⟩ := Outcome.exists_text differ
  have prettyCompiled :=
    compilePage_pretty_result (Note.document "first\u2028second") "page" false Catalog.builtin
  rw [compiled] at prettyCompiled
  exact of_decide_eq_true changed
    (claimed _ _ _ _ _ (by decide) compiled prettyCompiled).1

end PageCompiler
