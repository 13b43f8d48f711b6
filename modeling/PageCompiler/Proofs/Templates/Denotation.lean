/-
  The expression that a template is written as denotes the template.

  A reader of template literals undoes the escapes, takes the code of every substitution and stops at
  the closing backtick. It reads back what was written for a text if no opening brace follows, because
  a dollar sign at the end of the text is not escaped. What follows a text part is a substitution or the
  closing backtick, so no part runs into the next one. Text alone is written as a string literal, a
  lone reference as its code.
-/
import PageCompiler.Proofs.StringLiterals
import PageCompiler.Proofs.Templates.Grammar
import PageCompiler.TemplateCode

namespace PageCompiler.Template

/-- A part of a template literal: text with its escapes undone, or the code of a substitution. -/
inductive LiteralPart where
  | text (content : Text)
  | code (content : Text)
deriving DecidableEq, Repr

/-- What a backslash and the code point after it stand for. Escapes by number and escaped line breaks
    are refused. -/
def cooked? (point : CodePoint) : Option CodePoint :=
  match point with
  | 'b' => some '\x08'
  | 't' => some '\t'
  | 'n' => some '\n'
  | 'v' => some '\x0b'
  | 'f' => some '\x0c'
  | 'r' => some '\x0d'
  | point =>
      if point.isDigit ∨ point ∈ ("ux\n\x0d\u2028\u2029" : Text) then none else some point

/-- Puts text in front of parts. It becomes one part with the text that stands there. -/
def withText (content : Text) : List LiteralPart → List LiteralPart
  | .text next :: parts => .text (content ++ next) :: parts
  | parts => if content.isEmpty then parts else .text content :: parts

mutual

/-- Reads the text of a template literal up to its closing backtick, and gives what follows. A
    carriage return that stands there as it is reads as a line feed, also in front of a line feed. -/
def readText : Text → Option (List LiteralPart × Text)
  | [] => none
  | '\x60' :: rest => some ([], rest)
  | '\\' :: point :: rest =>
      match cooked? point with
      | none => none
      | some plain => (readText rest).map fun (parts, after) => (withText [plain] parts, after)
  | '$' :: '\x7b' :: rest =>
      (readCode rest).map fun (code, parts, after) => (.code code :: parts, after)
  | '\x0d' :: '\n' :: rest => readText ('\n' :: rest)
  | point :: rest =>
      if point = '\\' then none
      else
        let plain : CodePoint := if point = '\r' then '\n' else point
        (readText rest).map fun (parts, after) => (withText [plain] parts, after)

/-- Reads the code of a substitution up to the next closing brace, and then the text after it. -/
def readCode : Text → Option (Text × List LiteralPart × Text)
  | [] => none
  | '\x7d' :: rest => (readText rest).map fun (parts, after) => ([], parts, after)
  | point :: rest => (readCode rest).map fun (code, parts, after) => (point :: code, parts, after)

end

/-- The parts of the template literal that a text starts with, and what follows the literal. -/
def readLiteral : Text → Option (List LiteralPart × Text)
  | '\x60' :: rest => readText rest
  | _ => none

/-- The part that a template part should be read as. -/
def literalOf (lookup : Text → Option Text) : TemplatePart → LiteralPart
  | .text content => .text content
  | .reference path => .code ((lookup path).getD [])

variable {lookup : Text → Option Text} {template content code path rest : Text}
  {point : CodePoint} {literals : List LiteralPart} {parts : List TemplatePart}

theorem withText_append (front back : Text) :
    withText front (withText back literals) = withText (front ++ back) literals := by
  fun_cases withText back literals <;> simp_all [withText]

theorem withText_eq_cons (filled : content ≠ []) (apart : ∀ next, literals.head? ≠ some (.text next)) :
    withText content literals = .text content :: literals := by
  cases literals with
  | nil => simp [withText, filled]
  | cons first literals =>
      cases first with
      | text next => exact absurd rfl (apart next)
      | code _ => simp [withText, filled]

theorem readText_plain (noEnd : point ≠ '\x60') (noEscape : point ≠ '\\') (noReturn : point ≠ '\x0d')
    (noOpening : ¬ (point = '$' ∧ rest.head? = some (.char '\x7b'))) :
    readText (point :: rest) =
      (readText rest).map fun (literals, after) => (withText [point] literals, after) := by
  rw [readText.eq_6]
  · simp only [noEscape, noReturn, if_false]
  · exact noEnd
  · exact fun _ _ isEscape => absurd isEscape noEscape
  · rintro _ isDollar rfl
    exact noOpening ⟨isDollar, rfl⟩
  · exact fun _ isReturn => absurd isReturn noReturn

theorem readText_escaped {plain : CodePoint} (isCooked : cooked? point = some plain) :
    readText ('\\' :: point :: rest) =
      (readText rest).map fun (literals, after) => (withText [plain] literals, after) := by
  rw [readText, isCooked]

theorem withText_nil : withText [] literals = literals := by
  fun_cases withText [] literals <;> simp_all

/-- A code point that starts no substitution is escaped on its own. -/
theorem escapeLiteral_cons (apart : ¬ (point = '$' ∧ content.head? = some (.char '\x7b'))) :
    escapeLiteral (point :: content) =
      ((if point = '\\' ∨ point = '\x60' then [CodePoint.char '\\', point]
        else if point = '\n' then "\\n"
        else if point = '\r' then "\\r"
        else if point = '\t' then "\\t"
        else [point] : Text)) ++ escapeLiteral content := by
  refine escapeLiteral.eq_3 _ _ fun _ isDollar opens => apart ⟨isDollar, ?_⟩
  rw [opens]
  rfl

/-- Escaping makes no opening brace the first code point. -/
theorem head?_escapeLiteral (opened : (escapeLiteral content ++ rest).head? = some (.char '\x7b')) :
    (content ++ rest).head? = some (.char '\x7b') := by
  cases content with
  | nil => exact opened
  | cons point content =>
      by_cases starts : point = '$' ∧ content.head? = some (.char '\x7b')
      · obtain ⟨rfl, isHead⟩ := starts
        obtain ⟨content, rfl⟩ := List.head?_eq_some_iff.mp isHead
        cases opened
      · rw [escapeLiteral_cons starts] at opened
        split_ifs at opened
        · cases opened
        · cases opened
        · cases opened
        · cases opened
        · exact opened

/-- Written text is read as it was, if no opening brace follows that a dollar sign at its end could
    stand in front of. -/
theorem readText_escapeLiteral (apart : rest.head? ≠ some (.char '\x7b')) :
    readText (escapeLiteral content ++ rest) =
      (readText rest).map fun (literals, after) => (withText content literals, after) := by
  -- A substitution that is escaped takes two code points at once.
  induction content using escapeLiteral.induct with
  | case1 =>
      rw [escapeLiteral, List.nil_append]
      simp only [withText_nil]
      exact Option.map_id'.symm
  | case2 content ih =>
      have dollar : cooked? '$' = some '$' := by decide
      change readText ('\\' :: '$' :: '\x7b' :: (escapeLiteral content ++ rest)) = _
      rw [readText_escaped dollar, readText_plain (by decide) (by decide) (by decide) (by simp), ih]
      cases readText rest <;> simp [withText_append]
  | case3 point content opens ih =>
      have single : ¬ (point = '$' ∧ content.head? = some (.char '\x7b')) := by
        rintro ⟨isDollar, isHead⟩
        obtain ⟨others, isContent⟩ := List.head?_eq_some_iff.mp isHead
        exact opens others isDollar isContent
      have step : readText (escapeLiteral (point :: content) ++ rest) =
          (readText (escapeLiteral content ++ rest)).map
            fun (literals, after) => (withText [point] literals, after) := by
        rw [escapeLiteral_cons single, List.append_assoc]
        split_ifs with escape feed carriage tab
        · refine readText_escaped ?_
          rcases escape with rfl | rfl <;> decide
        · exact feed ▸ readText_escaped (by decide)
        · exact carriage ▸ readText_escaped (by decide)
        · exact tab ▸ readText_escaped (by decide)
        · obtain ⟨noEscape, noEnd⟩ := not_or.mp escape
          refine readText_plain noEnd noEscape carriage ?_
          rintro ⟨isDollar, opening⟩
          have opened := head?_escapeLiteral opening
          cases content with
          | nil => exact apart opened
          | cons next content => exact single ⟨isDollar, opened⟩
      rw [step, ih]
      cases readText rest <;> simp [withText_append]

theorem readCode_append (closed : CodePoint.char '\x7d' ∉ code) :
    readCode (code ++ CodePoint.char '\x7d' :: rest) =
      (readText rest).map fun (literals, after) => (code, literals, after) := by
  induction code with
  | nil => rfl
  | cons point code ih =>
      obtain ⟨first, later⟩ := List.ne_and_not_mem_of_not_mem_cons closed
      rw [List.cons_append, readCode.eq_3 _ _ fun isBrace => first isBrace.symm, ih later]
      cases readText rest <;> rfl

theorem readText_reference (closed : CodePoint.char '\x7d' ∉ code) :
    readText (literalPart (.reference path (some code)) ++ rest) =
      (readText rest).map fun (literals, after) => (.code code :: literals, after) := by
  have written : literalPart (.reference path (some code)) ++ rest =
      .char '$' :: .char '\x7b' :: (code ++ CodePoint.char '\x7d' :: rest) := by
    simp [literalPart, Text.ofString, Text.ofChars]
  rw [written, readText, readCode_append closed]
  cases readText rest <;> rfl

/-- After a text part there is no opening brace, be it at the end or in front of a reference. -/
theorem head?_flatMap_literalPart (apart : ∀ content, parts.head? ≠ some (.text content)) :
    ((resolve lookup parts).flatMap literalPart ++ CodePoint.char '\x60' :: rest).head? ≠
      some (.char '\x7b') := by
  cases parts with
  | nil => simp [resolve]
  | cons part parts =>
      cases part with
      | text content => exact absurd rfl (apart content)
      | reference path => simp [resolve, literalPart, Text.ofString, Text.ofChars]

/-- What is read for the parts after a text part does not start with text. -/
theorem head?_map_literalOf (apart : ∀ content, parts.head? ≠ some (.text content)) :
    ∀ content, (parts.map (literalOf lookup)).head? ≠ some (.text content) := by
  cases parts with
  | nil => simp
  | cons part parts =>
      cases part with
      | text content => exact absurd rfl (apart content)
      | reference path => simp [literalOf]

/-- The literals of well-formed parts are read part by part. -/
theorem readText_parts {isPath : Text → Prop} (wellFormed : WellFormed isPath parts)
    (found : ∀ path ∈ references parts, ∃ code, lookup path = some code ∧
      CodePoint.char '\x7d' ∉ code) :
    readText ((resolve lookup parts).flatMap literalPart ++ CodePoint.char '\x60' :: rest) =
      some (parts.map (literalOf lookup), rest) := by
  induction parts with
  | nil => rfl
  | cons part parts ih =>
      obtain ⟨proper, ahead, others⟩ := wellFormed_cons_iff.mp wellFormed
      cases part with
      | text content =>
          have apart : ∀ next, parts.head? ≠ some (.text next) := fun next isHead => ahead _ isHead
          have written : (resolve lookup (.text content :: parts)).flatMap literalPart =
              escapeLiteral content ++ (resolve lookup parts).flatMap literalPart := rfl
          rw [written, List.append_assoc, readText_escapeLiteral (head?_flatMap_literalPart apart),
            ih others found]
          simp [withText_eq_cons proper.1 (head?_map_literalOf apart), literalOf]
      | reference path =>
          obtain ⟨⟨code, isCode, closed⟩, later⟩ := List.forall_mem_cons.mp found
          have written : (resolve lookup (.reference path :: parts)).flatMap literalPart =
              literalPart (.reference path (some code)) ++
                (resolve lookup parts).flatMap literalPart := by
            rw [← isCode]
            rfl
          rw [written, List.append_assoc, readText_reference closed, ih others later]
          simp [literalOf, isCode]

theorem firstUnresolved?_eq_none (found : ∀ path ∈ references parts, ∃ code, lookup path = some code) :
    firstUnresolved? (resolve lookup parts) = none := by
  induction parts with
  | nil => rfl
  | cons part parts ih =>
      cases part with
      | text content => exact ih found
      | reference path =>
          obtain ⟨⟨code, isCode⟩, later⟩ := List.forall_mem_cons.mp found
          have rest := ih later
          simpa [firstUnresolved?, resolve, isCode] using rest

theorem plainText?_of_writes (writes : Writes parts template) (alone : references parts = []) :
    plainText? (resolve lookup parts) = some template := by
  induction writes with
  | nil => rfl
  | text content _ ih => exact congrArg (Option.map (content ++ ·)) (ih alone)
  | reference path => cases alone

theorem plainText?_eq_none (mixed : references parts ≠ []) :
    plainText? (resolve lookup parts) = none := by
  induction parts with
  | nil => exact absurd rfl mixed
  | cons part parts ih =>
      cases part with
      | text content => exact congrArg (Option.map (content ++ ·)) (ih mixed)
      | reference path => rfl

/-- Only a lone reference is written as its code. -/
theorem plainExpression_eq (several : ∀ path, parts ≠ [.reference path]) :
    plainExpression (resolve lookup parts) =
      match plainText? (resolve lookup parts) with
      | some text => Json.stringLiteral text
      | none => templateLiteral (resolve lookup parts) := by
  refine plainExpression.eq_2 _ fun path code lone => ?_
  match parts, lone with
  | [.reference source], _ => exact several source rfl

theorem readLiteral_templateLiteral (parsed : parse template = .ok parts)
    (found : ∀ path ∈ references parts, ∃ code, lookup path = some code ∧
      CodePoint.char '\x7d' ∉ code) :
    readLiteral (templateLiteral (resolve lookup parts)) = some (parts.map (literalOf lookup), []) := by
  have read := @readText_parts lookup [] parts _ (parse_iff_wellFormed.mp parsed).1 found
  rw [← read]
  simp [templateLiteral, readLiteral, Text.ofString, Text.ofChars]

/-- Written as a template literal, a template is read back as its text parts and the code of its
    references, in order and to the end. Without a directive, text alone is a string literal of the
    template, unit by unit, where the two surrogates of a pair are one character; a lone reference is
    its code; and all else is a template literal. No code may hold a closing brace. -/
theorem format_denotes (parsed : parse template = .ok parts)
    (found : ∀ path ∈ references parts, ∃ code, lookup path = some code ∧
      CodePoint.char '\x7d' ∉ code) (hint : Option Text) :
    (Directive.ofName? (hint.getD []) = some .stringLiteral →
      ∃ text, format hint (resolve lookup parts) = .ok text ∧
        readLiteral text = some (parts.map (literalOf lookup), [])) ∧
    (Directive.ofName? (hint.getD []) = some .plain →
      ∃ text, format hint (resolve lookup parts) = .ok text ∧
        (references parts = [] → Json.read {} text = .ok (.str template.joined) ∧
          template.joined.units = template.units ∧
          (template.isScalar = true → template.joined = template)) ∧
        (∀ path, parts = [.reference path] → lookup path = some text) ∧
        (references parts ≠ [] → (∀ path, parts ≠ [.reference path]) →
          readLiteral text = some (parts.map (literalOf lookup), []))) := by
  have resolved : firstUnresolved? (resolve lookup parts) = none :=
    firstUnresolved?_eq_none fun path member => (found path member).imp fun _ known => known.1
  have read := readLiteral_templateLiteral parsed found
  constructor
  · intro directive
    exact ⟨_, by rw [format, directive, resolved], read⟩
  · intro directive
    refine ⟨_, by rw [format, directive, resolved], fun alone => ?_, ?_, fun mixed several => ?_⟩
    · have several : ∀ path, parts ≠ [.reference path] := by
        rintro path rfl
        cases alone
      rw [plainExpression_eq several,
        plainText?_of_writes (parse_iff_wellFormed.mp parsed).2 alone]
      exact ⟨Json.read_stringLiteral template, template.units_joined, Text.joined_of_isScalar⟩
    · rintro path rfl
      obtain ⟨code, isCode, _⟩ := found path List.mem_cons_self
      simp [plainExpression, resolve, isCode]
    · rw [plainExpression_eq several, plainText?_eq_none mixed]
      exact read

theorem format_denotes_marks :
    parse "\\\x60$\x7b\x7bprice.value\x7d\x7d" = .ok [.text "\\\x60$", .reference "price.value"] ∧
      ∃ text, format none (resolve (fun _ => some ("priceValue" : Text))
          [.text "\\\x60$", .reference "price.value"]) = .ok text ∧
        readLiteral text = some ([.text "\\\x60$", .code "priceValue"], []) := by
  have parsed : parse "\\\x60$\x7b\x7bprice.value\x7d\x7d" =
      .ok [.text "\\\x60$", .reference "price.value"] := by
    with_unfolding_all rfl
  have known : ∀ path : Text, ∃ code : Text, some ("priceValue" : Text) = some code ∧
      CodePoint.char '\x7d' ∉ code :=
    fun _ => ⟨"priceValue", rfl, by decide⟩
  obtain ⟨text, formatted, _, _, read⟩ :=
    (@format_denotes (fun _ => some ("priceValue" : Text)) _ _ parsed (fun path _ => known path) none).2
      rfl
  exact ⟨parsed, text, formatted, read (by simp [references]) (by simp)⟩

end PageCompiler.Template
