/-
  Which accessors are member expressions.

  A member expression is an identifier followed by steps: a dot and a name, or an index in brackets.
  An accessor is an identifier and segments of the reference, joined by dots as they stand, so it is
  one exactly if every segment is a name, possibly with indexes behind it
  (`isMemberExpression_accessor_iff`). A segment that is an index itself, as in `table.rows.0`, makes
  none (`index_accessor_not_member`).
-/
import PageCompiler.Proofs.Collection.Closure
import PageCompiler.Proofs.NameSlots

namespace PageCompiler

open Collection

/-- The names that may follow a dot. All plain identifiers are among them; which others there are is
    left open, but none is empty, starts with a digit or holds a dot. -/
structure NameForms where
  IsName : Text → Prop
  of_isValid : ∀ {name}, Identifier.IsValid name → IsName name
  starts : ∀ {name}, IsName name → ∃ first rest, name = first :: rest ∧ first.isDigit = false
  dot_not_mem : ∀ {name}, IsName name → CodePoint.char '.' ∉ name

theorem Identifier.isDigit_eq_false_of_isStart {point : CodePoint}
    (start : Identifier.isStart point = true) : point.isDigit = false := by
  cases point with
  | surrogate _ => rfl
  | char c =>
      simp only [Identifier.isStart, CodePoint.holds, Bool.or_eq_true, beq_iff_eq] at start
      rcases start with (alpha | rfl) | rfl
      · change (decide (65 ≤ c.val ∧ c.val ≤ 90) ||
          (decide (97 ≤ c.val) && decide (c.val ≤ 122))) = true at alpha
        change (decide (48 ≤ c.val) && decide (c.val ≤ 57)) = false
        simp only [Bool.or_eq_true, Bool.and_eq_true, decide_eq_true_eq, UInt32.le_iff_toNat_le]
          at alpha
        simp only [Bool.and_eq_false_iff, decide_eq_false_iff_not, UInt32.le_iff_toNat_le]
        change 65 ≤ c.val.toNat ∧ c.val.toNat ≤ 90 ∨ 97 ≤ c.val.toNat ∧ c.val.toNat ≤ 122 at alpha
        change ¬ 48 ≤ c.val.toNat ∨ ¬ c.val.toNat ≤ 57
        omega
      · decide
      · decide

/-- Plain identifiers and no other names. -/
def NameForms.plain : NameForms where
  IsName := Identifier.IsValid
  of_isValid := id
  starts := by
    rintro _ ⟨first, rest, rfl, start, _⟩
    exact ⟨first, rest, rfl, Identifier.isDigit_eq_false_of_isStart start⟩
  dot_not_mem := Identifier.IsValid.dot_not_mem

/-- The digits of an index. -/
def IsIndex (digits : Text) : Prop := digits ≠ [] ∧ ∀ point ∈ digits, point.isDigit = true

inductive MemberStep where
  | field (name : Text)
  | index (digits : Text)

namespace MemberStep

def text : MemberStep → Text
  | .field name => "." ++ name
  | .index digits => "[" ++ digits ++ "]"

def Proper (names : NameForms) : MemberStep → Prop
  | .field name => names.IsName name
  | .index digits => IsIndex digits

end MemberStep

/-- An identifier followed by steps. -/
def IsMemberExpression (names : NameForms) (code : Text) : Prop :=
  ∃ (head : Text) (steps : List MemberStep), Identifier.IsValid head ∧
    (∀ step ∈ steps, step.Proper names) ∧ code = head ++ steps.flatMap MemberStep.text

def indexText (indexes : List Text) : Text :=
  indexes.flatMap fun digits => MemberStep.text (.index digits)

/-- A segment that can stand between dots: a name, possibly with indexes behind it. -/
def IsPathSegment (names : NameForms) (segment : Text) : Prop :=
  ∃ name indexes, names.IsName name ∧ (∀ digits ∈ indexes, IsIndex digits) ∧
    segment = name ++ indexText indexes

variable {names : NameForms} {identifier : Text} {path : List Text}

theorem IsIndex.dot_not_mem {digits : Text} (index : IsIndex digits) :
    CodePoint.char '.' ∉ digits :=
  fun member => absurd (index.2 _ member) (by decide)

theorem dot_not_mem_index {digits : Text} (index : IsIndex digits) :
    CodePoint.char '.' ∉ MemberStep.text (.index digits) := by
  simp [MemberStep.text, Text.ofString, Text.ofChars, index.dot_not_mem]

/-- Dots divide the steps into a front with indexes and one segment for each field. -/
theorem segments_steps {front : Text} {steps : List MemberStep} (plain : CodePoint.char '.' ∉ front)
    (proper : ∀ step ∈ steps, step.Proper names) :
    ∃ indexes segments, Text.segments (front ++ steps.flatMap MemberStep.text) =
        (front ++ indexText indexes) :: segments ∧
      (∀ digits ∈ indexes, IsIndex digits) ∧ ∀ segment ∈ segments, IsPathSegment names segment := by
  induction steps generalizing front with
  | nil => exact ⟨[], [], by simp [indexText, Text.segments_of_plain plain], by simp, by simp⟩
  | cons step steps ih =>
      obtain ⟨first, others⟩ := List.forall_mem_cons.mp proper
      cases step with
      | field name =>
          obtain ⟨indexes, segments, cut, areIndexes, areSegments⟩ :=
            ih (names.dot_not_mem first) others
          refine ⟨[], (name ++ indexText indexes) :: segments, ?_, by simp, ?_⟩
          · have shape : front ++ (MemberStep.field name :: steps).flatMap MemberStep.text =
                front ++ CodePoint.char '.' :: (name ++ steps.flatMap MemberStep.text) := by
              simp [MemberStep.text, Text.ofString, Text.ofChars]
            rw [shape, Text.segments_append_dot plain, cut]
            simp [indexText]
          · exact List.forall_mem_cons.mpr ⟨⟨name, indexes, first, areIndexes, rfl⟩, areSegments⟩
      | index digits =>
          have longer : CodePoint.char '.' ∉ front ++ MemberStep.text (.index digits) := by
            simp [plain, dot_not_mem_index first]
          obtain ⟨indexes, segments, cut, areIndexes, areSegments⟩ := ih longer others
          refine ⟨digits :: indexes, segments, ?_, ?_, areSegments⟩
          · rw [List.flatMap_cons, ← List.append_assoc, cut]
            simp [indexText]
          · exact List.forall_mem_cons.mpr ⟨first, areIndexes⟩

theorem accessor_eq (identifier : Text) (path : List Text) :
    accessor identifier path =
      identifier ++ path.flatMap fun segment => MemberStep.text (.field segment) := by
  unfold accessor
  induction path generalizing identifier with
  | nil => simp
  | cons segment path ih =>
      rw [List.intercalate_cons_cons, ih, List.flatMap_cons, MemberStep.text]
      simp only [List.append_assoc]

/-- The segments of a path as steps. -/
theorem exists_steps (segments : ∀ segment ∈ path, IsPathSegment names segment) :
    ∃ steps : List MemberStep, (∀ step ∈ steps, step.Proper names) ∧
      (path.flatMap fun segment => MemberStep.text (.field segment)) =
        steps.flatMap MemberStep.text := by
  induction path with
  | nil => exact ⟨[], by simp, rfl⟩
  | cons segment path ih =>
      obtain ⟨⟨name, indexes, isName, areIndexes, rfl⟩, others⟩ := List.forall_mem_cons.mp segments
      obtain ⟨steps, proper, texts⟩ := ih others
      refine ⟨.field name :: (indexes.map .index ++ steps), ?_, ?_⟩
      · intro step member
        rcases List.mem_cons.mp member with rfl | later
        · exact isName
        rcases List.mem_append.mp later with inside | rest
        · obtain ⟨digits, isDigits, rfl⟩ := List.mem_map.mp inside
          exact areIndexes digits isDigits
        · exact proper step rest
      · rw [List.flatMap_cons, texts]
        simp [indexText, MemberStep.text, List.flatMap_map]

theorem isMemberExpression_accessor_iff (valid : Identifier.IsValid identifier)
    (plain : ∀ segment ∈ path, CodePoint.char '.' ∉ segment) :
    IsMemberExpression names (accessor identifier path) ↔
      ∀ segment ∈ path, IsPathSegment names segment := by
  constructor
  · rintro ⟨head, steps, isHead, proper, isCode⟩
    obtain ⟨indexes, segments, cut, _, areSegments⟩ := segments_steps isHead.dot_not_mem proper
    rw [← isCode, segments_accessor valid plain, List.cons.injEq] at cut
    rw [cut.2]
    exact areSegments
  · intro segments
    obtain ⟨steps, proper, texts⟩ := exists_steps segments
    exact ⟨identifier, steps, valid, proper, by rw [accessor_eq, texts]⟩

/-- A segment that starts with a digit can not follow a dot. -/
theorem not_isPathSegment_of_digit {first : CodePoint} {rest : Text} (digit : first.isDigit = true) :
    ¬ IsPathSegment names (first :: rest) := by
  rintro ⟨name, indexes, isName, _, same⟩
  obtain ⟨start, others, rfl, noDigit⟩ := names.starts isName
  rw [List.cons_append, List.cons.injEq] at same
  rw [← same.1, digit] at noDigit
  cases noDigit

namespace Environment

variable {env : Environment} {tables : Tables} {reference code : Text}

/-- The segments of a reference that stand in its code: those after the name and, for an element,
    after the prop. -/
def restOfPath (target : Node) (reference : Text) : List Text :=
  if target.isElement then (Reference.path reference).tail else Reference.path reference

theorem dot_not_mem_restOfPath {target : Node} {segment : Text}
    (member : segment ∈ restOfPath target reference) : CodePoint.char '.' ∉ segment := by
  unfold restOfPath at member
  split at member
  · exact Reference.dot_not_mem_path (List.mem_of_mem_tail member)
  · exact Reference.dot_not_mem_path member

/-- The code of a reference is the name of a slot and the rest of the path. -/
theorem Reads.exists_head {app : Option Text} (reads : env.Reads tables reference code) :
    ∃ target slot head, env.target? reference = some target ∧
      (tables.names app).nameOf? slot = some head ∧
      code = accessor head (restOfPath target reference) := by
  cases reads with
  | @element element cell named isElement found =>
      refine ⟨element, .state (cellKey element.id ((Reference.path reference).headD [])), cell.state,
        named, ?_, by rw [restOfPath, if_pos isElement]⟩
      exact congrArg (Option.map Cell.state) found
  | @derived target identifier named isDerived found =>
      have notElement : ¬ target.isElement = true := by
        intro isElement
        rw [Node.isDerived_eq_false_of_isElement isElement] at isDerived
        cases isDerived
      exact ⟨target, .derived target.id, identifier, named, found,
        by rw [restOfPath, if_neg notElement]⟩

end Environment

open Environment

/-- After a collection that succeeds, the code of every reference starts with an identifier that is
    not reserved and goes on with the segments of the reference, and it is a member expression exactly
    if all of these segments can follow a dot. -/
theorem collectPage_accessors_member {document : Document} {catalog : Catalog} {editor : Bool}
    {page : Node} {env : Environment} {tables after : Tables} (names : NameForms)
    (keyed : document.Keyed) (member : page ∈ document.values)
    (start_ok : Environment.start document catalog editor page = .ok (env, tables))
    (ran : (collectPage env).run tables = .ok () after) :
    ∀ reference code, after.accessors.get? reference = some code →
      ∃ target head, env.target? reference = some target ∧ Identifier.IsValid head ∧
        Identifier.isReserved head = false ∧
        code = accessor head (restOfPath target reference) ∧
        (IsMemberExpression names code ↔
          ∀ segment ∈ restOfPath target reference, IsPathSegment names segment) := by
  intro reference code found
  have started := started_of_start start_ok
  have consistent := consistent_of_start keyed member start_ok
  have completed := started.completed consistent ran
  have own := completed.collects.takesNames.own started.own
  have reads := (completed.collects.justified started.justified).accessors found
  obtain ⟨target, slot, head, named, isHead, rfl⟩ := reads.2.exists_head
  obtain ⟨valid, unreserved⟩ := own.proper head (own.taken isHead)
  exact ⟨target, head, named, valid, unreserved, rfl,
    isMemberExpression_accessor_iff valid fun _ => dot_not_mem_restOfPath⟩

namespace FirstRow

def page : Node := ⟨"page", "page", .empty, none, none, none, .page []⟩

/-- Shows the first row of a table. -/
def note : Node :=
  ⟨"note", "note", .ofList [("value", some (.template "\x7b\x7btable.rows.0\x7d\x7d" none))],
    some "page", none, none, .element "Typography"⟩

def table : Node := ⟨"table", "table", .empty, none, none, none, .derived .empty⟩

def document : Document := .ofList [("page", page), ("note", note), ("table", table)]

/-- The reference to the row is collected as it stands. -/
theorem exists_collected : ∃ env tables after,
    Environment.start document Catalog.builtin false page = .ok (env, tables) ∧
      (collectPage env).run tables = .ok () after ∧
      after.accessors.get? "table.rows.0" = some "table.rows.0" := by
  have checked : Environment.collectsSuch document Catalog.builtin false page (fun _ after =>
      after.accessors.get? "table.rows.0" = some "table.rows.0") = true := by decide +kernel
  obtain ⟨env, tables, after, start_ok, ran, found⟩ := Environment.exists_collected checked
  exact ⟨env, tables, after, start_ok, ran, of_decide_eq_true found⟩

end FirstRow

theorem collectPage_accessors_member_first_row : ∃ env tables after,
    Environment.start FirstRow.document Catalog.builtin false FirstRow.page = .ok (env, tables) ∧
      (collectPage env).run tables = .ok () after ∧
      ∃ target head, env.target? "table.rows.0" = some target ∧ Identifier.IsValid head ∧
        accessor head (restOfPath target "table.rows.0") = "table.rows.0" := by
  obtain ⟨env, tables, after, start_ok, ran, found⟩ := FirstRow.exists_collected
  obtain ⟨target, head, named, valid, _, isCode, _⟩ := collectPage_accessors_member .plain (by decide)
    List.mem_cons_self start_ok ran _ _ found
  exact ⟨env, tables, after, start_ok, ran, target, head, named, valid, isCode.symm⟩

/-- The accessor of a reference to a row is no member expression, whatever names there are, because a
    number follows a dot. -/
theorem index_accessor_not_member : ¬ ∃ names : NameForms, ∀ (document : Document) (catalog : Catalog)
    (editor : Bool) (page : Node) (env : Environment) (tables after : Tables) (reference code : Text),
      document.Keyed → page ∈ document.values →
      Environment.start document catalog editor page = .ok (env, tables) →
      (collectPage env).run tables = .ok () after →
      after.accessors.get? reference = some code → IsMemberExpression names code := by
  rintro ⟨names, claimed⟩
  obtain ⟨env, tables, after, start_ok, ran, found⟩ := FirstRow.exists_collected
  have isMember := claimed _ _ _ _ env tables after _ _ (by decide) List.mem_cons_self start_ok ran
    found
  have isAccessor : Text.ofString "table.rows.0" = accessor "table" ["rows", "0"] := by decide
  have valid : Identifier.IsValid "table" := ⟨_, _, rfl, by decide, by decide⟩
  rw [isAccessor, isMemberExpression_accessor_iff valid (by decide)] at isMember
  exact not_isPathSegment_of_digit (by decide) (isMember "0" (by decide))

end PageCompiler
