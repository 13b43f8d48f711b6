/-
  Laying a text out again changes nothing, and layout moves nothing but blanks.

  What layout writes for a line depends on the line without the blanks around it, apart from the blanks
  at the end of a line in which a template goes on; these it keeps. So it finds in its own line what it
  found in the first one. The empty line after the imports is skipped and written anew, and lines inside
  templates stay. Going on from there with the cursor that the first line left, the same is true of the
  rest (`layoutLines_layoutLines`). No condition on the text is needed: literals may be left open and
  brackets unmatched.
-/
import PageCompiler.Proofs.LayoutLexemes

namespace PageCompiler

namespace Text

variable {lead text : Text} {lines : List Text}

/-! ## Blanks -/

/-- The code points of a text that are not blank. -/
def withoutBlanks (text : Text) : Text := text.filter fun point => !isBlank point

theorem withoutBlanks_append (left right : Text) :
    withoutBlanks (left ++ right) = withoutBlanks left ++ withoutBlanks right :=
  List.filter_append ..

theorem withoutBlanks_eq_nil (blank : AllBlank text) : withoutBlanks text = [] := by
  refine List.filter_eq_nil_iff.mpr fun point member => ?_
  simp [blank point member]

theorem withoutBlanks_trimLeft (text : Text) : withoutBlanks (trimLeft text) = withoutBlanks text := by
  obtain ⟨lead, _, isText, _, blank, _⟩ := trim_spec text
  conv_rhs => rw [isText, withoutBlanks_append, withoutBlanks_eq_nil blank, List.nil_append]

theorem withoutBlanks_trim (text : Text) : withoutBlanks (trim text) = withoutBlanks text := by
  obtain ⟨_, trail, _, isLine, _, blank⟩ := trim_spec text
  rw [← withoutBlanks_trimLeft text, isLine, withoutBlanks_append, withoutBlanks_eq_nil blank,
    List.append_nil]

theorem trimLeft_append (blank : AllBlank lead) : trimLeft (lead ++ text) = trimLeft text :=
  List.dropWhile_append_of_pos blank

theorem trimLeft_trimLeft (text : Text) : trimLeft (trimLeft text) = trimLeft text :=
  List.dropWhile_idempotent isBlank text

theorem trimLeft_trim (text : Text) : trimLeft (trim text) = trim text := by
  obtain ⟨_, trail, _, isLine, _, _⟩ := trim_spec text
  cases core : trim text with
  | nil => rfl
  | cons point rest =>
      have first : (text.dropWhile isBlank).head? = some point := by
        rw [← trimLeft, isLine, core]
        rfl
      have filled : isBlank point = false := by
        simpa [first] using List.head?_dropWhile_not isBlank text
      exact List.dropWhile_cons_of_neg (by simp [filled])

theorem trim_append (blank : AllBlank lead) : trim (lead ++ text) = trim text := by
  rw [trim, trim, trimLeft_append blank]

theorem trim_trimLeft (text : Text) : trim (trimLeft text) = trim text := by
  rw [trim, trim, trimLeft_trimLeft]

theorem trim_trim (text : Text) : trim (trim text) = trim text := by
  rw [trim, trimLeft_trim, trim, trimRight, trimRight, List.reverse_reverse,
    List.dropWhile_idempotent]

/-! ## Lines -/

theorem unbroken_of_mem_splitLines {line : Text} (member : line ∈ splitLines text) :
    Unbroken line := by
  induction text using splitLines.induct generalizing line with
  | case1 => cases member
  | case2 rest ih =>
      rcases List.mem_cons.mp member with rfl | later
      · simp [Unbroken]
      · exact ih later
  | case3 point rest unpaired boundary ih =>
      rw [splitLines.eq_3 _ _ unpaired, if_pos boundary] at member
      rcases List.mem_cons.mp member with rfl | later
      · simp [Unbroken]
      · exact ih later
  | case4 point rest unpaired unbroken ih =>
      rw [splitLines.eq_3 _ _ unpaired, if_neg unbroken] at member
      cases lines : splitLines rest with
      | nil =>
          rw [lines, consToFirst, List.mem_singleton] at member
          simpa [member, Unbroken] using unbroken
      | cons first others =>
          rw [lines] at ih member
          rcases List.mem_cons.mp member with rfl | later
          · exact List.forall_mem_cons.mpr
              ⟨Bool.eq_false_iff.mpr unbroken, ih List.mem_cons_self⟩
          · exact ih (List.mem_cons_of_mem _ later)

/-- A line break is blank, so the lines of a text hold all that is not. -/
theorem withoutBlanks_splitLines (text : Text) :
    (splitLines text).flatMap withoutBlanks = withoutBlanks text := by
  induction text using splitLines.induct with
  | case1 => rfl
  | case2 rest ih => exact ih
  | case3 point rest unpaired boundary ih =>
      rw [splitLines.eq_3 _ _ unpaired, if_pos boundary, List.flatMap_cons, ih]
      simp [withoutBlanks, isBlank_of_isLineBoundary boundary]
  | case4 point rest unpaired unbroken ih =>
      rw [splitLines.eq_3 _ _ unpaired, if_neg unbroken, ← List.singleton_append (x := point),
        withoutBlanks_append, ← ih]
      cases splitLines rest with
      | nil => rfl
      | cons first others =>
          rw [consToFirst, List.flatMap_cons, List.flatMap_cons, ← List.singleton_append,
            withoutBlanks_append, List.append_assoc]

end Text

namespace Layout

open Text (AllBlank Unbroken withoutBlanks)

variable {cursor : Cursor} {raw line code : Text} {lines : List Text}

/-! ## One line -/

/-- Outside of templates a line counts without the blanks around it, and with those at its end only if
    a template goes on there. -/
theorem layoutLine_congr (outside : cursor.inside = false) (sameText : Text.trim line = Text.trim raw)
    (sameEnd : (scanLine false (Text.trim raw)).2 = true → Text.trimLeft line = Text.trimLeft raw) :
    layoutLine cursor line = layoutLine cursor raw := by
  cases goesOn : (scanLine false (Text.trim raw)).2 with
  | false => simp [layoutLine, outside, sameText, goesOn]
  | true => simp [layoutLine, outside, sameText, sameEnd goesOn]

theorem layoutLine_filled (outside : cursor.inside = false) (filled : Text.trim raw ≠ []) :
    ∃ depth, (layoutLine cursor raw).1 =
      (if cursor.afterImport && !isImport (Text.trim raw) then [[]] else []) ++
        [indentation depth ++
          if (scanLine false (Text.trim raw)).2 then Text.trimLeft raw else Text.trim raw] :=
  ⟨cursor.depth - ((Text.trim raw).takeWhile isCloser).length, by simp [layoutLine, outside, filled]⟩

/-- A line that is laid out already. -/
theorem layoutLine_indented (outside : cursor.inside = false) (depth : Nat) (raw : Text) :
    layoutLine cursor (indentation depth ++
      if (scanLine false (Text.trim raw)).2 then Text.trimLeft raw else Text.trim raw) =
        layoutLine cursor raw := by
  have blank := isBlank_indentation depth
  refine layoutLine_congr outside ?_ fun goesOn => ?_
  · rw [Text.trim_append blank]
    split
    · exact Text.trim_trimLeft raw
    · exact Text.trim_trim raw
  · rw [if_pos goesOn, Text.trimLeft_append blank, Text.trimLeft_trimLeft]

/-- What is written for one line is laid out as that line was. -/
theorem layoutLines_layoutLine_append (cursor : Cursor) (raw : Text) (rest : List Text) :
    layoutLines cursor ((layoutLine cursor raw).1 ++ rest) =
      (layoutLine cursor raw).1 ++ layoutLines (layoutLine cursor raw).2 rest := by
  cases outside : cursor.inside with
  | true => simp [layoutLine, outside, layoutLines]
  | false =>
      by_cases blank : Text.trim raw = []
      · rw [layoutLine_blank outside blank]
        rfl
      · obtain ⟨depth, lines⟩ := layoutLine_filled outside blank
        have itself : layoutLines cursor ((indentation depth ++
            if (scanLine false (Text.trim raw)).2 then Text.trimLeft raw else Text.trim raw) :: rest) =
              (layoutLine cursor raw).1 ++ layoutLines (layoutLine cursor raw).2 rest := by
          rw [layoutLines, layoutLine_indented outside]
        conv_lhs => rw [lines]
        cases cursor.afterImport && !isImport (Text.trim raw) with
        | false => exact itself
        | true =>
            -- The empty line in front is dropped, and the line itself brings it back.
            have dropped : layoutLine cursor [] = ([], cursor) := layoutLine_blank outside rfl
            rw [if_pos rfl, List.append_assoc, List.singleton_append, layoutLines, dropped]
            exact itself

/-! ## All lines -/

theorem layoutLines_layoutLines (cursor : Cursor) (lines : List Text) :
    layoutLines cursor (layoutLines cursor lines) = layoutLines cursor lines := by
  induction lines generalizing cursor with
  | nil => rfl
  | cons raw rest ih =>
      show layoutLines cursor
        ((layoutLine cursor raw).1 ++ layoutLines (layoutLine cursor raw).2 rest) =
          (layoutLine cursor raw).1 ++ layoutLines (layoutLine cursor raw).2 rest
      rw [layoutLines_layoutLine_append, ih]

theorem unbroken_indentation (depth : Nat) : Unbroken (indentation depth) := by
  intro point member
  obtain ⟨unit, isUnit, member⟩ := List.mem_flatten.mp member
  rw [List.eq_of_mem_replicate isUnit] at member
  have all : ∀ other ∈ indentUnit, Text.isLineBoundary other = false := by decide
  exact all point member

theorem unbroken_layoutLine (unbroken : Unbroken raw) (member : line ∈ (layoutLine cursor raw).1) :
    Unbroken line := by
  cases outside : cursor.inside with
  | true =>
      simp only [layoutLine, outside, if_true, List.mem_singleton] at member
      exact member ▸ unbroken
  | false =>
      by_cases blank : Text.trim raw = []
      · rw [layoutLine_blank outside blank] at member
        cases member
      · obtain ⟨depth, lines⟩ := layoutLine_filled outside blank
        obtain ⟨lead, trail, isText, isLine, _, _⟩ := Text.trim_spec raw
        have left : Unbroken (Text.trimLeft raw) := fun point inside =>
          unbroken point (isText ▸ List.mem_append_right lead inside)
        have both : Unbroken (Text.trim raw) := fun point inside =>
          left point (isLine ▸ List.mem_append_left trail inside)
        rw [lines] at member
        rcases List.mem_append.mp member with separator | itself
        · split at separator
          · rw [List.mem_singleton.mp separator]
            exact List.forall_mem_nil _
          · cases separator
        · rw [List.mem_singleton.mp itself]
          refine List.forall_mem_append.mpr ⟨unbroken_indentation depth, ?_⟩
          split
          · exact left
          · exact both

theorem unbroken_layoutLines (unbroken : ∀ raw ∈ lines, Unbroken raw)
    (member : line ∈ layoutLines cursor lines) : Unbroken line := by
  induction lines generalizing cursor with
  | nil => cases member
  | cons raw rest ih =>
      obtain ⟨here, later⟩ := List.forall_mem_cons.mp unbroken
      rcases List.mem_append.mp member with first | others
      · exact unbroken_layoutLine here first
      · exact ih later others

theorem withoutBlanks_layoutLine (cursor : Cursor) (raw : Text) :
    (layoutLine cursor raw).1.flatMap withoutBlanks = withoutBlanks raw := by
  cases outside : cursor.inside with
  | true => simp [layoutLine, outside]
  | false =>
      by_cases blank : Text.trim raw = []
      · rw [layoutLine_blank outside blank, ← Text.withoutBlanks_trim raw, blank]
        rfl
      · obtain ⟨depth, lines⟩ := layoutLine_filled outside blank
        have separator : List.flatMap withoutBlanks
            (if cursor.afterImport && !isImport (Text.trim raw) then [[]] else []) = [] := by
          split <;> rfl
        rw [lines, List.flatMap_append, separator, List.nil_append, List.flatMap_singleton,
          Text.withoutBlanks_append, Text.withoutBlanks_eq_nil (isBlank_indentation depth),
          List.nil_append]
        split
        · exact Text.withoutBlanks_trimLeft raw
        · exact Text.withoutBlanks_trim raw

theorem withoutBlanks_layoutLines (cursor : Cursor) (lines : List Text) :
    (layoutLines cursor lines).flatMap withoutBlanks = lines.flatMap withoutBlanks := by
  induction lines generalizing cursor with
  | nil => rfl
  | cons raw rest ih =>
      show ((layoutLine cursor raw).1 ++ layoutLines (layoutLine cursor raw).2 rest).flatMap _ = _
      rw [List.flatMap_append, withoutBlanks_layoutLine, ih, List.flatMap_cons]

theorem splitLines_written (unbroken : ∀ line ∈ lines, Unbroken line) :
    Text.splitLines (written lines) = lines := by
  induction lines with
  | nil => rfl
  | cons line rest ih =>
      obtain ⟨here, later⟩ := List.forall_mem_cons.mp unbroken
      have isWritten : written (line :: rest) = line ++ CodePoint.char '\n' :: written rest := by
        simp [written, Text.ofString, Text.ofChars]
      rw [isWritten, Text.splitLines_append here, ih later]

theorem withoutBlanks_written (lines : List Text) :
    withoutBlanks (written lines) = lines.flatMap withoutBlanks := by
  induction lines with
  | nil => rfl
  | cons line rest ih =>
      have feed : withoutBlanks ("\n" : Text) = [] := rfl
      show withoutBlanks ((line ++ ("\n" : Text)) ++ written rest) = _
      rw [Text.withoutBlanks_append, Text.withoutBlanks_append, feed, List.append_nil, ih,
        List.flatMap_cons]

/-- Laying out a text that is laid out gives the same text, and a text and its layout differ in blanks
    only. -/
theorem format_stable (code : Text) :
    format (format code) = format code ∧ withoutBlanks (format code) = withoutBlanks code := by
  have kept := (withoutBlanks_layoutLines .start (Text.splitLines code)).trans
    (Text.withoutBlanks_splitLines code)
  by_cases empty : layoutLines .start (Text.splitLines code) = []
  · -- A text without lines is one line feed.
    rw [empty] at kept
    have isFeed : format code = "\n" := by
      rw [format, empty]
      rfl
    rw [isFeed]
    exact ⟨rfl, kept⟩
  · have isWritten : format code = written (layoutLines .start (Text.splitLines code)) :=
      intercalate_append_feed empty
    have lines : Text.splitLines (format code) = layoutLines .start (Text.splitLines code) := by
      rw [isWritten]
      exact splitLines_written fun line member =>
        unbroken_layoutLines (fun _ => Text.unbroken_of_mem_splitLines) member
    constructor
    · rw [format, lines, layoutLines_layoutLines, ← format]
    · rw [isWritten, withoutBlanks_written, kept]

end Layout

end PageCompiler
