/-
  Reading an import declaration back.

  A declaration is `import`, up to three clauses (a default name, `* as` a name, names in braces),
  `from` and a string literal. `NameLetters.readDeclaration` reads a line by that grammar. It knows
  nothing of how declarations are written; the main result says that it finds the clauses and the
  source that a declaration was written for (`NameLetters.readDeclaration_text`).

  Which code points beyond ASCII may stand in names is left open (`NameLetters`).
-/
import Mathlib.Data.List.Forall2
import PageCompiler.ImportTable
import PageCompiler.Proofs.Constants.Printable
import PageCompiler.Proofs.LineBreaks
import PageCompiler.Proofs.StringLiterals

namespace PageCompiler

/-- Words and marks in front of the source of a declaration. -/
inductive ImportToken where
  | word (name : Text)
  | comma
  | star
  | opening
  | closing
deriving DecidableEq

/-- The clauses of a declaration. Named symbols stand with their local names. -/
structure ImportClauses where
  defaultName? : Option Text
  wholeName? : Option Text
  named : List (Text × Text)
deriving DecidableEq

structure ImportDeclaration where
  clauses : ImportClauses
  source : Text
deriving DecidableEq

/-- The code points of names: those of ASCII identifiers, and any others that are not used between
    names. -/
structure NameLetters where
  isStart : CodePoint → Bool
  isPart : CodePoint → Bool
  part_of_start : ∀ {point}, isStart point = true → isPart point = true
  start_of_ascii : ∀ {point}, Identifier.isStart point = true → isStart point = true
  part_of_ascii : ∀ {point}, Identifier.isPart point = true → isPart point = true
  no_mark : ∀ point ∈ (" ,*\x7b\x7d\x22" : Text), isPart point = false
  no_break : ∀ {point}, Text.isLineBoundary point = true → isPart point = false

/-- No letters beyond ASCII. -/
def NameLetters.ascii : NameLetters where
  isStart := Identifier.isStart
  isPart := Identifier.isPart
  part_of_start {point} start :=
    Identifier.IsValid.isPart_of_mem ⟨point, [], rfl, start, by simp⟩ (List.mem_singleton_self point)
  start_of_ascii := id
  part_of_ascii := id
  no_mark := by decide
  no_break boundary := by
    refine Bool.eq_false_iff.mpr fun part => ?_
    rw [Identifier.not_isLineBoundary_of_isPart part] at boundary
    cases boundary

/-! ## The grammar -/

namespace ImportToken

/-- What a code point between words says. -/
def mark? : CodePoint → Option (List ImportToken)
  | .char ' ' => some []
  | .char ',' => some [.comma]
  | .char '*' => some [.star]
  | .char '\x7b' => some [.opening]
  | .char '\x7d' => some [.closing]
  | _ => none

/-- The entries between braces. -/
def readNamed : List ImportToken → Option (List (Text × Text))
  | [] => some []
  | [.word symbol] => some [(symbol, symbol)]
  | .word symbol :: .comma :: rest => (readNamed rest).map ((symbol, symbol) :: ·)
  | [.word symbol, .word between, .word name] =>
      if between = "as" then some [(symbol, name)] else none
  | .word symbol :: .word between :: .word name :: .comma :: rest =>
      if between = "as" then (readNamed rest).map ((symbol, name) :: ·) else none
  | _ => none

def readBraces : List ImportToken → Option (List (Text × Text))
  | .opening :: rest => if rest.getLast? = some .closing then readNamed rest.dropLast else none
  | _ => none

/-- The clauses after a default name, at least one. -/
def readOthers : List ImportToken → Option ImportClauses
  | [.star, .word between, .word name] =>
      if between = "as" then some ⟨none, some name, []⟩ else none
  | .star :: .word between :: .word name :: .comma :: rest =>
      if between = "as" then (readBraces rest).map (⟨none, some name, ·⟩) else none
  | tokens => (readBraces tokens).map (⟨none, none, ·⟩)

def readClauses : List ImportToken → Option ImportClauses
  | [] => some ⟨none, none, []⟩
  | [.word name] => some ⟨some name, none, []⟩
  | .word name :: .comma :: rest =>
      (readOthers rest).map fun others => { others with defaultName? := some name }
  | tokens => readOthers tokens

/-- The tokens of a declaration in front of its source. -/
def readFront : List ImportToken → Option ImportClauses
  | .word first :: rest =>
      if first = "import" ∧ rest.getLast? = some (.word "from") then readClauses rest.dropLast
      else none
  | _ => none

end ImportToken

namespace NameLetters

variable (letters : NameLetters)

def IsName (name : Text) : Prop :=
  ∃ first rest, name = first :: rest ∧ letters.isStart first = true ∧
    ∀ point ∈ rest, letters.isPart point = true

instance (name : Text) : Decidable (letters.IsName name) :=
  match name with
  | [] => isFalse nofun
  | first :: rest =>
      decidable_of_iff (letters.isStart first = true ∧ ∀ point ∈ rest, letters.isPart point = true)
        ⟨fun isName => ⟨first, rest, rfl, isName⟩, by rintro ⟨_, _, ⟨⟩, isName⟩; exact isName⟩

/-- The token of a word that has ended. -/
def wordTokens : Text → Option (List ImportToken)
  | [] => some []
  | first :: rest => if letters.isStart first then some [.word (first :: rest)] else none

/-- The tokens up to the first quotation mark, and what follows it. The letters of the word before
    the text are in `word`. -/
def scan (word : Text) : Text → Option (List ImportToken × Text)
  | [] => none
  | point :: rest =>
      if letters.isPart point then scan (word ++ [point]) rest
      else do
        let before ← letters.wordTokens word
        if point = '\x22' then return (before, rest)
        else
          let mark ← ImportToken.mark? point
          let (later, source) ← scan [] rest
          return (before ++ mark ++ later, source)

def readDeclaration (line : Text) : Option ImportDeclaration := do
  let (tokens, body) ← letters.scan [] line
  let clauses ← ImportToken.readFront tokens
  match Json.readStringBody body with
  | .ok (source, rest) => if rest = ";" then some ⟨clauses, source⟩ else none
  | .error _ => none

/-- Reads a header line by line. -/
def readHeader (header : Text) : Option (List ImportDeclaration) :=
  (Text.splitLines header).mapM letters.readDeclaration

end NameLetters

/-! ## What is written -/

namespace ImportClauses

/-- The texts of the clauses. -/
def texts (clauses : ImportClauses) : List Text :=
  clauses.defaultName?.toList ++
    (clauses.wholeName?.toList.map fun (name : Text) => "* as " ++ name) ++
    if clauses.named.isEmpty then []
    else ["\x7b " ++ List.intercalate ", " (clauses.named.map ImportTable.namedText) ++ " \x7d"]

/-- The tokens of a named symbol. -/
def namedTokens (entry : Text × Text) : List ImportToken :=
  if entry.1 = entry.2 then [.word entry.1] else [.word entry.1, .word "as", .word entry.2]

/-- The tokens of the clauses. -/
def tokens (clauses : ImportClauses) : List (List ImportToken) :=
  (clauses.defaultName?.toList.map fun name => [.word name]) ++
    (clauses.wholeName?.toList.map fun name => [.star, .word "as", .word name]) ++
    if clauses.named.isEmpty then []
    else [.opening :: List.intercalate [.comma] (clauses.named.map namedTokens) ++ [.closing]]

/-- All names in the clauses are names. -/
structure AreNames (letters : NameLetters) (clauses : ImportClauses) : Prop where
  default : ∀ name ∈ clauses.defaultName?, letters.IsName name
  whole : ∀ name ∈ clauses.wholeName?, letters.IsName name
  named : ∀ entry ∈ clauses.named, letters.IsName entry.1 ∧ letters.IsName entry.2

end ImportClauses

namespace ImportToken

open ImportClauses

theorem readNamed_namedTokens (entry : Text × Text) : readNamed (namedTokens entry) = some [entry] := by
  obtain ⟨symbol, name⟩ := entry
  unfold namedTokens
  by_cases same : symbol = name
  · subst same
    simp [readNamed]
  · simp [same, readNamed]

theorem readNamed_namedTokens_comma (entry : Text × Text) (rest : List ImportToken) :
    readNamed (namedTokens entry ++ [.comma] ++ rest) = (readNamed rest).map (entry :: ·) := by
  obtain ⟨symbol, name⟩ := entry
  unfold namedTokens
  by_cases same : symbol = name
  · subst same
    simp [readNamed]
  · simp [same, readNamed]

theorem readNamed_intercalate (named : List (Text × Text)) :
    readNamed (List.intercalate [.comma] (named.map namedTokens)) = some named := by
  induction named with
  | nil => rfl
  | cons entry rest ih =>
      cases rest with
      | nil => simp [readNamed_namedTokens]
      | cons next rest =>
          rw [List.map_cons, List.map_cons, List.intercalate_cons_cons, readNamed_namedTokens_comma,
            ← List.map_cons, ih]
          rfl

theorem readBraces_named (named : List (Text × Text)) :
    readBraces (.opening :: (List.intercalate [.comma] (named.map namedTokens) ++ [.closing])) =
      some named := by
  rw [readBraces]
  simp [readNamed_intercalate]

/-- Clauses other than a default name are read from their tokens, if there are any. -/
theorem readOthers_tokens {wholeName? : Option Text} {named : List (Text × Text)}
    (filled : wholeName? ≠ none ∨ named ≠ []) :
    readOthers (List.intercalate [.comma] (tokens ⟨none, wholeName?, named⟩)) =
      some ⟨none, wholeName?, named⟩ := by
  cases wholeName? with
  | none =>
      have hasNamed : named ≠ [] := filled.resolve_left fun absent => absent rfl
      simp [tokens, hasNamed, readOthers, readBraces_named]
  | some name =>
      by_cases noNamed : named = []
      · simp [tokens, noNamed, readOthers]
      · simp [tokens, noNamed, readOthers, readBraces_named]

/-- The clauses are read from their tokens. -/
theorem readClauses_tokens (clauses : ImportClauses) :
    readClauses (List.intercalate [.comma] clauses.tokens) = some clauses := by
  obtain ⟨defaultName?, wholeName?, named⟩ := clauses
  by_cases filled : wholeName? ≠ none ∨ named ≠ []
  · have others := readOthers_tokens filled
    cases defaultName? with
    | none =>
        -- The first token is a mark, so there is no default name.
        cases wholeName? <;> cases named <;> simp_all [tokens, readClauses]
    | some name =>
        cases wholeName? <;> cases named <;> simp_all [tokens, readClauses]
  · simp only [not_or, ne_eq, not_not] at filled
    obtain ⟨rfl, rfl⟩ := filled
    cases defaultName? <;> rfl

theorem readFront_tokens (clauses : ImportClauses) :
    readFront (.word "import" :: List.intercalate [.comma] clauses.tokens ++ [.word "from"]) =
      some clauses := by
  rw [List.cons_append, readFront]
  simp [readClauses_tokens]

end ImportToken

/-! ## How it is spelled -/

namespace NameLetters

open ImportToken

variable {letters : NameLetters} {point : CodePoint} {name text other rest : Text}
  {tokens later between : List ImportToken}

/-- Tokens in front of those that were scanned. -/
def prepend (tokens : List ImportToken) (scanned : Option (List ImportToken × Text)) :
    Option (List ImportToken × Text) :=
  scanned.map fun (later, source) => (tokens ++ later, source)

theorem prepend_prepend (scanned : Option (List ImportToken × Text)) :
    prepend tokens (prepend later scanned) = prepend (tokens ++ later) scanned := by
  cases scanned <;> simp [prepend]

/-- The text does not start inside a word. -/
def StartsApart (letters : NameLetters) (text : Text) : Prop :=
  ∀ point ∈ text.head?, letters.isPart point = false

/-- The text is in one line and reads as the tokens, whatever follows it apart. -/
structure Spells (letters : NameLetters) (text : Text) (tokens : List ImportToken) : Prop where
  unbroken : Text.Unbroken text
  scan : ∀ {rest}, letters.StartsApart rest →
    letters.scan [] (text ++ rest) = prepend tokens (letters.scan [] rest)

theorem spells_nil : letters.Spells [] [] where
  unbroken := by simp [Text.Unbroken]
  scan {rest} _ := by
    cases scanned : letters.scan [] rest <;> simp [prepend, scanned]

theorem IsName.isPart (isName : letters.IsName name) :
    ∀ point ∈ name, letters.isPart point = true := by
  obtain ⟨first, rest, rfl, start, parts⟩ := isName
  exact List.forall_mem_cons.mpr ⟨letters.part_of_start start, parts⟩

theorem IsName.of_isValid (valid : Identifier.IsValid name) : letters.IsName name := by
  obtain ⟨first, rest, rfl, start, parts⟩ := valid
  exact ⟨first, rest, rfl, letters.start_of_ascii start, fun point member =>
    letters.part_of_ascii (parts point member)⟩

theorem wordTokens_of_isName (isName : letters.IsName name) :
    letters.wordTokens name = some [.word name] := by
  obtain ⟨first, rest, rfl, start, _⟩ := isName
  rw [wordTokens, if_pos start]

theorem scan_append (word : Text) (parts : ∀ point ∈ text, letters.isPart point = true) :
    letters.scan word (text ++ rest) = letters.scan (word ++ text) rest := by
  induction text generalizing word with
  | nil => simp
  | cons point text ih =>
      obtain ⟨part, others⟩ := List.forall_mem_cons.mp parts
      rw [List.cons_append, scan, if_pos part, ih _ others, List.append_assoc]
      rfl

/-- A word ends where a code point follows that is no part of it. -/
theorem scan_of_startsApart (isName : letters.IsName name) (apart : letters.StartsApart rest) :
    letters.scan name rest = prepend [.word name] (letters.scan [] rest) := by
  cases rest with
  | nil => rfl
  | cons point rest =>
      have notPart : ¬ letters.isPart point = true := by simp [apart point rfl]
      have noWord : letters.wordTokens [] = some [] := rfl
      rw [scan, scan, if_neg notPart, if_neg notPart, wordTokens_of_isName isName, noWord]
      by_cases quote : point = '\x22'
      · simp [quote, prepend]
      · cases mark? point <;> cases letters.scan [] rest <;> simp [quote, prepend]

theorem spells_name (isName : letters.IsName name) : letters.Spells name [.word name] where
  unbroken point member := by
    cases breaks : Text.isLineBoundary point with
    | false => rfl
    | true =>
        have noPart := letters.no_break breaks
        rw [isName.isPart point member] at noPart
        cases noPart
  scan apart := by
    rw [scan_append [] isName.isPart]
    exact scan_of_startsApart isName apart

theorem mem_marks_of_mark? (isMark : mark? point = some between) :
    point ∈ (" ,*\x7b\x7d" : Text) := by
  unfold mark? at isMark
  split at isMark <;> first | decide | cases isMark

theorem isPart_of_mark? (isMark : mark? point = some between) : letters.isPart point = false :=
  letters.no_mark point (List.mem_append_left ("\x22" : Text) (mem_marks_of_mark? isMark))

theorem scan_mark (isMark : mark? point = some between) :
    letters.scan [] (point :: rest) = prepend between (letters.scan [] rest) := by
  have plain : ∀ point ∈ (" ,*\x7b\x7d" : Text), point ≠ '\x22' := by decide
  have noWord : letters.wordTokens [] = some [] := rfl
  rw [scan, if_neg (by simp [isPart_of_mark? isMark]), noWord, isMark]
  simp only [plain point (mem_marks_of_mark? isMark), if_false]
  cases letters.scan [] rest <;> rfl

/-- Two texts with a mark between them. -/
theorem Spells.around (point : CodePoint) (before : letters.Spells text tokens)
    (isMark : mark? point = some between)
    (after : letters.Spells other later) :
    letters.Spells (text ++ point :: other) (tokens ++ between ++ later) where
  unbroken := by
    have unbroken : ∀ point ∈ (" ,*\x7b\x7d" : Text), Text.isLineBoundary point = false := by decide
    intro one member
    rcases List.mem_append.mp member with inText | inRest
    · exact before.unbroken one inText
    · rcases List.mem_cons.mp inRest with rfl | inOther
      · exact unbroken one (mem_marks_of_mark? isMark)
      · exact after.unbroken one inOther
  scan {rest} apart := by
    have startsApart : letters.StartsApart (point :: (other ++ rest)) := by
      rintro _ ⟨⟩
      exact isPart_of_mark? isMark
    rw [List.append_assoc, List.cons_append, before.scan startsApart, scan_mark isMark,
      after.scan apart, prepend_prepend, prepend_prepend, List.append_assoc]

theorem Spells.space (before : letters.Spells text tokens) (after : letters.Spells other later) :
    letters.Spells (text ++ " " ++ other) (tokens ++ later) := by
  have spelled := before.around ' ' rfl after
  rw [List.append_nil] at spelled
  rw [List.append_assoc]
  exact spelled

theorem Spells.comma (before : letters.Spells text tokens) (after : letters.Spells other later) :
    letters.Spells (text ++ ", " ++ other) (tokens ++ [.comma] ++ later) := by
  have spelled := before.around ',' rfl (spells_nil.space after)
  rw [List.append_assoc text]
  exact spelled

theorem Spells.braces (inside : letters.Spells text tokens) :
    letters.Spells ("\x7b " ++ text ++ " \x7d") (.opening :: tokens ++ [.closing]) := by
  have closed := inside.space (spells_nil.around '\x7d' rfl spells_nil)
  have spelled := spells_nil.around '\x7b' rfl (spells_nil.space closed)
  simp only [List.append_assoc, List.nil_append, List.append_nil] at spelled
  rw [List.append_assoc]
  exact spelled

theorem spells_as : letters.Spells "as" [.word "as"] :=
  spells_name (.of_isValid ⟨_, _, rfl, by decide, by decide⟩)

theorem spells_whole (isName : letters.IsName name) :
    letters.Spells ("* as " ++ name) [.star, .word "as", .word name] := by
  have spelled := spells_nil.around '*' rfl
    (spells_nil.space (spells_as.space (spells_name isName)))
  exact spelled

/-- Spelled parts, with commas between them. -/
theorem spells_intercalate {texts : List Text} {parts : List (List ImportToken)}
    (spelled : List.Forall₂ letters.Spells texts parts) :
    letters.Spells (List.intercalate ", " texts) (List.intercalate [.comma] parts) := by
  induction spelled with
  | nil => exact spells_nil
  | @cons text part texts parts here below ih =>
      cases below with
      | nil => simpa using here
      | cons next below =>
          rw [List.intercalate_cons_cons, List.intercalate_cons_cons]
          exact here.comma ih

theorem spells_namedText {entry : Text × Text} (isSymbol : letters.IsName entry.1)
    (isName : letters.IsName entry.2) :
    letters.Spells (ImportTable.namedText entry) (ImportClauses.namedTokens entry) := by
  unfold ImportTable.namedText ImportClauses.namedTokens
  split
  · exact spells_name isSymbol
  · have spelled := (spells_name isSymbol).space (spells_as.space (spells_name isName))
    rw [List.append_assoc entry.1] at spelled ⊢
    exact spelled

theorem spells_clauses {clauses : ImportClauses} (names : clauses.AreNames letters) :
    List.Forall₂ letters.Spells clauses.texts clauses.tokens := by
  obtain ⟨default, whole, named⟩ := names
  have defaultClause : List.Forall₂ letters.Spells clauses.defaultName?.toList
      (clauses.defaultName?.toList.map fun name => [.word name]) := by
    rw [List.forall₂_map_right_iff, List.forall₂_same]
    exact fun name member => spells_name (default name (Option.mem_toList.mp member))
  have wholeClause : List.Forall₂ letters.Spells
      (clauses.wholeName?.toList.map fun (name : Text) => "* as " ++ name)
      (clauses.wholeName?.toList.map fun name => [.star, .word "as", .word name]) := by
    rw [List.forall₂_map_left_iff, List.forall₂_map_right_iff, List.forall₂_same]
    exact fun name member => spells_whole (whole name (Option.mem_toList.mp member))
  have entries : List.Forall₂ letters.Spells (clauses.named.map ImportTable.namedText)
      (clauses.named.map ImportClauses.namedTokens) := by
    rw [List.forall₂_map_left_iff, List.forall₂_map_right_iff, List.forall₂_same]
    exact fun entry member => spells_namedText (named entry member).1 (named entry member).2
  refine List.rel_append (List.rel_append defaultClause wholeClause) ?_
  split
  · exact .nil
  · exact .cons (spells_intercalate entries).braces .nil

theorem spells_front {clauses : ImportClauses} (names : clauses.AreNames letters) :
    letters.Spells ("import " ++ List.intercalate ", " clauses.texts ++ " from ")
      (.word "import" :: List.intercalate [.comma] clauses.tokens ++ [.word "from"]) := by
  have first : letters.Spells "import" [.word "import"] :=
    spells_name (.of_isValid ⟨_, _, rfl, by decide, by decide⟩)
  have last : letters.Spells "from" [.word "from"] :=
    spells_name (.of_isValid ⟨_, _, rfl, by decide, by decide⟩)
  have spelled := first.space
    ((spells_intercalate (spells_clauses names)).space (last.space spells_nil))
  rw [List.append_assoc, List.append_nil] at spelled
  rw [List.append_assoc]
  rw [List.append_assoc (List.intercalate _ clauses.texts)] at spelled
  exact spelled

/-- A declaration is scanned up to the quotation mark of its source. -/
theorem scan_declaration {clauses : ImportClauses} (names : clauses.AreNames letters)
    (source : Text) :
    letters.scan [] (ImportTable.declaration clauses.texts source) =
      some (.word "import" :: List.intercalate [.comma] clauses.tokens ++ [.word "from"],
        source.flatMap Json.escapePoint ++ CodePoint.char '\x22' :: ";") := by
  have notPart : letters.isPart '\x22' = false := letters.no_mark _ (by decide)
  have apart : letters.StartsApart (Json.stringLiteral source ++ ";") := by
    rintro _ ⟨⟩
    exact notPart
  have body : letters.scan [] (Json.stringLiteral source ++ ";") =
      some ([], source.flatMap Json.escapePoint ++ CodePoint.char '\x22' :: ";") := by
    have shape : Json.stringLiteral source ++ (";" : Text) =
        CodePoint.char '\x22' ::
          (source.flatMap Json.escapePoint ++ CodePoint.char '\x22' :: ";") := by
      unfold Json.stringLiteral
      rw [List.append_assoc]
      rfl
    rw [shape, scan, if_neg (by simp [notPart])]
    rfl
  rw [ImportTable.declaration, List.append_assoc _ (Json.stringLiteral source),
    (spells_front names).scan apart, body]
  simp [prepend]

theorem unbroken_declaration {clauses : ImportClauses} (names : clauses.AreNames letters)
    (source : Text) : Text.Unbroken (ImportTable.declaration clauses.texts source) := by
  have literal : Text.Unbroken (Json.stringLiteral source) := fun point member =>
    Json.not_isLineBoundary_of_printable (Json.printable_stringLiteral source point member)
  intro point member
  rcases List.mem_append.mp member with inDeclaration | isEnd
  · rcases List.mem_append.mp inDeclaration with inFront | inSource
    · exact (spells_front names).unbroken point inFront
    · exact literal point inSource
  · have ending : Text.Unbroken ";" := by unfold Text.Unbroken; decide
    exact ending point isEnd

/-- Reading finds the clauses and the source. Surrogates side by side in the source come back as
    the character of their pair. -/
theorem readDeclaration_text {clauses : ImportClauses} (names : clauses.AreNames letters)
    (source : Text) :
    letters.readDeclaration (ImportTable.declaration clauses.texts source) =
      some ⟨clauses, Text.joined source⟩ := by
  rw [readDeclaration, scan_declaration names]
  simp only [Option.bind_eq_bind, Option.bind_some, readFront_tokens, Json.readStringBody_flatMap]
  rfl

end NameLetters

end PageCompiler
