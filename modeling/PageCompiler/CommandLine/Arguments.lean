/-
  The arguments of the command line.

  Switches may stand before, between and after other arguments. A long switch may be shortened as
  long as it stays the only one that fits, and takes its value from the next argument or after an
  equals sign; a short one also takes it from the rest of its own argument. After `--` nothing is a
  switch, and as a value in the switch's own argument it stands for no value. Of a repeated switch
  the last one counts.
-/
import PageCompiler.Text.DecimalDigit

namespace PageCompiler.CommandLine

inductive Switch where
  | help
  | page
  | editor
  | pretty
  | output
deriving DecidableEq, Repr

def Switch.spellings : Switch → List String
  | .help => ["-h", "--help"]
  | .page => ["--page"]
  | .editor => ["--editor"]
  | .pretty => ["--pretty"]
  | .output => ["--output", "-o"]

def Switch.takesValue : Switch → Bool
  | .page | .output => true
  | _ => false

/-- The two ways in which reading the arguments can end the program. -/
inductive Stop where
  | helpWanted
  | misuse
deriving DecidableEq, Repr

def Stop.exitCode : Stop → Nat
  | .helpWanted => 0
  | .misuse => 2

/-- What an argument looks like on its own. -/
inductive Token where
  | plain
  | separator
  | unknown
  /-- A switch, and the text that follows it in its own argument. -/
  | switch (switch : Switch) (isShort : Bool) (attached : Option (List Char))
deriving DecidableEq, Repr

/-- Spellings with their switches. -/
def spellingsOf (switches : List Switch) : List (List Char × Switch) :=
  switches.flatMap fun switch => switch.spellings.map fun spelling => (spelling.toList, switch)

def isShortSpelling (spelling : List Char) : Bool := spelling.drop 1 |>.head? |>.all (· ≠ '-')

/-- The parts before and after the first equals sign. -/
def splitAtEquals? (text : List Char) : Option (List Char × List Char) :=
  match text.span (· ≠ '=') with
  | (before, _ :: after) => some (before, after)
  | (_, []) => none

/-- The switches that an argument may be short for. -/
def abbreviated (known : List (List Char × Switch)) (text : List Char) : List Token :=
  match text with
  | '-' :: '-' :: _ =>
      let (start, attached) := match splitAtEquals? text with
        | some (before, after) => (before, some after)
        | none => (text, none)
      (known.filter fun entry => start.isPrefixOf entry.1).map fun entry =>
        .switch entry.2 (isShortSpelling entry.1) attached
  | _ =>
      known.filterMap fun entry =>
        if entry.1 = text.take 2 then
          some (.switch entry.2 (isShortSpelling entry.1) (some (text.drop 2)))
        else if text.isPrefixOf entry.1 then
          some (.switch entry.2 (isShortSpelling entry.1) none)
        else none

/-- Whether a text writes a number without a sign: digits, or a point with digits after it. -/
def isUnsignedNumber (text : List Char) : Bool :=
  match text.span Text.isDecimalDigit with
  | (digits, []) => !digits.isEmpty
  | (_, '.' :: decimals) => !decimals.isEmpty && decimals.all Text.isDecimalDigit
  | _ => false

/-- Whether a text is a negative number, which is no switch. A line feed may end it. -/
def isNegativeNumber : List Char → Bool
  | '-' :: rest =>
      isUnsignedNumber (if rest.getLast? = some '\n' then rest.dropLast else rest)
  | _ => false

/-- A spelling in full, with what is attached to it. -/
def spelledOut? (known : List (List Char × Switch)) (text : List Char) (attached : Option (List Char)) : Option Token :=
  (known.lookup text).map fun switch => .switch switch (isShortSpelling text) attached

def classify (known : List (List Char × Switch)) (text : List Char) : Except Stop Token :=
  if text.head? ≠ some '-' then .ok .plain
  else
    match spelledOut? known text none with
    | some token => .ok token
    | none =>
        if text.length = 1 then .ok .plain
        else
          match (splitAtEquals? text).bind fun (before, after) =>
              spelledOut? known before (some after) with
          | some token => .ok token
          | none =>
              match abbreviated known text with
              | [token] => .ok token
              | _ :: _ :: _ => .error .misuse
              | [] =>
                  if isNegativeNumber text || text.contains ' ' then .ok .plain else .ok .unknown

/-- The arguments with what they look like. -/
def classifyAll (known : List (List Char × Switch)) :
    List String → Except Stop (List (Token × String))
  | [] => .ok []
  | "--" :: rest => .ok ((.separator, "--") :: rest.map fun argument => (.plain, argument))
  | argument :: rest => do
      let token ← classify known argument.toList
      return (token, argument) :: (← classifyAll known rest)

/-- Whether a text may follow short switches without a value in one argument. It is a row of further
    short switches, of which the last may take a value from there or from the next argument. -/
def clusterIsValid (known : List (List Char × Switch)) (nextIsPlain : Bool) : List Char → Bool
  | [] => true
  | c :: rest =>
      match known.lookup ['-', c] with
      | none => false
      | some switch =>
          if switch.takesValue then !rest.isEmpty || nextIsPlain
          else clusterIsValid known nextIsPlain rest

def startsPlain (rest : List (Token × String)) : Bool := rest.head?.any (·.1 = .plain)

/-- The value that a text attached to a switch gives. -/
def attachedValue (text : List Char) : Option String :=
  if text = ['-', '-'] then none else some (String.ofList text)

/-- A switch with its value, and the arguments after it. -/
def takeSwitch (known : List (List Char × Switch)) (switch : Switch) (isShort : Bool)
    (attached : Option (List Char)) (rest : List (Token × String)) :
    Except Stop (Option String × List (Token × String)) :=
  match attached, switch.takesValue, rest with
  | some text, true, _ => .ok (attachedValue text, rest)
  | some text, false, _ =>
      if isShort && !text.isEmpty && clusterIsValid known (startsPlain rest) text then
        .ok (none, rest)
      else .error .misuse
  | none, true, (.plain, value) :: rest => .ok (some value, rest)
  | none, true, _ => .error .misuse
  | none, false, _ => .ok (none, rest)

/-- What has been read of the arguments of the command that renders a page. -/
structure RenderArguments where
  document : Option String := none
  /-- Whether a page is given, and its id if it has one. -/
  page : Option (Option String) := none
  editor : Bool := false
  pretty : Bool := false
  output : Option String := none
  /-- Arguments that nothing takes. -/
  extra : List String := []
deriving DecidableEq, Repr

def renderSwitches : List (List Char × Switch) :=
  spellingsOf [.help, .page, .editor, .pretty, .output]

def RenderArguments.record (arguments : RenderArguments) (switch : Switch)
    (value : Option String) : Except Stop RenderArguments :=
  match switch with
  | .help => .error .helpWanted
  | .page => .ok { arguments with page := some value }
  | .editor => .ok { arguments with editor := true }
  | .pretty => .ok { arguments with pretty := true }
  | .output => .ok { arguments with output := value }

theorem length_takeSwitch {known : List (List Char × Switch)} {switch : Switch} {isShort : Bool}
    {attached : Option (List Char)} {rest after : List (Token × String)} {value : Option String}
    (taken : takeSwitch known switch isShort attached rest = .ok (value, after)) :
    after.length ≤ rest.length := by
  unfold takeSwitch at taken
  split at taken
  · cases taken; exact Nat.le_refl _
  · split at taken <;> cases taken; exact Nat.le_refl _
  · cases taken; simp
  · cases taken
  · cases taken; exact Nat.le_refl _

/-- The arguments without a separator in front. -/
def dropSeparator : List (Token × String) → List (Token × String)
  | (.separator, _) :: rest => rest
  | tokens => tokens

theorem length_dropSeparator (tokens : List (Token × String)) :
    (dropSeparator tokens).length ≤ tokens.length := by
  unfold dropSeparator
  split
  · exact Nat.le_succ _
  · exact Nat.le_refl _

/-- Reads the arguments from left to right. The first one that is no switch is the document; a
    separator next to it is dropped. -/
def readRender (arguments : RenderArguments) (tokens : List (Token × String)) :
    Except Stop RenderArguments :=
  match tokens with
  | [] => .ok arguments
  | (.plain, argument) :: rest =>
      if arguments.document.isSome then
        readRender { arguments with extra := arguments.extra ++ [argument] } rest
      else
        have := length_dropSeparator rest
        readRender { arguments with document := some argument } (dropSeparator rest)
  | (.separator, argument) :: rest =>
      if arguments.document.isNone && !rest.isEmpty then readRender arguments rest
      else readRender { arguments with extra := arguments.extra ++ [argument] } rest
  | (.unknown, argument) :: rest =>
      readRender { arguments with extra := arguments.extra ++ [argument] } rest
  | (.switch switch isShort attached, _) :: rest =>
      match taken : takeSwitch renderSwitches switch isShort attached rest with
      | .error stop => .error stop
      | .ok (value, after) =>
          have := length_takeSwitch taken
          match arguments.record switch value with
          | .error stop => .error stop
          | .ok arguments => readRender arguments after
termination_by tokens.length
decreasing_by all_goals (simp only [List.length_cons]; omega)

/-- A page to render, and where its code goes. -/
structure RenderTask where
  document : String
  /-- The id of the page; a page that is given without an id is none of any document. -/
  page : Option String
  editor : Bool
  pretty : Bool
  output : Option String
deriving DecidableEq, Repr

/-- The task of arguments that are complete. -/
def RenderArguments.task? (arguments : RenderArguments) : Option RenderTask := do
  let document ← arguments.document
  let page ← arguments.page
  return ⟨document, page, arguments.editor, arguments.pretty, arguments.output⟩

inductive Command where
  | none
  | components
  | render (task : RenderTask)
deriving DecidableEq, Repr

def helpSwitches : List (List Char × Switch) := spellingsOf [.help]

/-- The arguments of a command that takes none: all but a call for help are left over. -/
def readNone : List (Token × String) → Except Stop (List String)
  | [] => .ok []
  | (.switch switch isShort attached, _) :: rest =>
      match takeSwitch helpSwitches switch isShort attached rest with
      | .error stop => .error stop
      | .ok _ => .error .helpWanted
  | (_, argument) :: rest => do return argument :: (← readNone rest)

/-- Reads the arguments of the named command, and what is left of them. -/
def readCommand (name : String) (arguments : List String) : Except Stop (Command × List String) :=
  if name = "render" then do
    let read ← readRender {} (← classifyAll renderSwitches arguments)
    match read.task? with
    | some task => return (.render task, read.extra)
    | none => throw .misuse
  else if name = "components" then do
    return (.components, ← readNone (← classifyAll helpSwitches arguments))
  else .error .misuse

/-- Reads what precedes the command. -/
def readTop : List (Token × String) → Except Stop (Command × List String)
  | [] => .ok (.none, [])
  | (.plain, name) :: rest => readCommand name (rest.map Prod.snd)
  | (.separator, _) :: _ => .error .misuse
  | (.unknown, argument) :: rest => do
      let (command, extra) ← readTop rest
      return (command, argument :: extra)
  | (.switch switch isShort attached, _) :: rest =>
      match takeSwitch helpSwitches switch isShort attached rest with
      | .error stop => .error stop
      | .ok _ => .error .helpWanted

/-- Reads all arguments; none may be left over. -/
def parse (arguments : List String) : Except Stop Command := do
  let (command, extra) ← readTop (← classifyAll helpSwitches arguments)
  if extra.isEmpty then return command else throw .misuse

end PageCompiler.CommandLine
