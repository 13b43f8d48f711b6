/-
  URLs of requests. A URL has a scheme, an authority, a path, a query and a fragment, of which all
  but the path may be absent. It is absolute if it has a scheme and a host; any other URL is taken
  below the root of the service, whatever its scheme and authority are.
-/
import PageCompiler.Service.Address
import PageCompiler.Service.DomainName
import PageCompiler.Text.Blank
import PageCompiler.Text.DecimalDigit
import PageCompiler.Text.Quoted

namespace PageCompiler.Service

/-- Parts of a URL whose escaped form is bounded. -/
inductive UrlPart where
  | path
  | query
deriving DecidableEq, Repr

def UrlPart.name : UrlPart → Text
  | .path => "path"
  | .query => "query"

/-- Why a text is no URL. -/
inductive UrlFault where
  | tooLong
  | controlCharacter (point : CodePoint) (position : Nat)
  | addressUnreadable (host : Text) (version : Nat)
  | nameUnreadable (host : Text)
  | numberUnreadable (number : Text)
  /-- Two slashes that start no authority. -/
  | slashesInFront
  /-- A colon that ends no scheme. -/
  | colonInFront
  | partTooLong (part : UrlPart)
deriving DecidableEq, Repr

def UrlFault.message : UrlFault → Text
  | .tooLong => "URL too long"
  | .controlCharacter point position =>
      "Invalid non-printable ASCII character in URL, " ++ Text.quoted [point]
        ++ " at position " ++ Text.ofNat position ++ "."
  | .addressUnreadable host version =>
      "Invalid IPv" ++ Text.ofNat version ++ " address: " ++ Text.quoted host
  | .nameUnreadable host => "Invalid IDNA hostname: " ++ Text.quoted host
  | .numberUnreadable number => "Invalid port: " ++ Text.quoted number
  | .slashesInFront => "Relative URLs cannot have a path starting with '//'"
  | .colonInFront => "Relative URLs cannot have a path starting with ':'"
  | .partTooLong part => "URL component '" ++ part.name ++ "' too long"

/-- The code points that stand for themselves, a percent sign and hexadecimal digits for the bytes of
    each other one. Surrogates do not occur. -/
def escape (isPlain : CodePoint → Bool) (text : Text) : Text :=
  text.flatMap fun point =>
    if isPlain point then [point]
    else
      (Text.shown [point]).toUTF8.toList.flatMap fun byte =>
        "%" ++ Text.upper (Text.hexDigits 2 byte.toNat)

/-- Letters, digits and the marks that are never escaped. -/
def isUnreserved (point : CodePoint) : Bool :=
  point.holds Char.isAlphanum || point ∈ ("-._~" : Text)

/-- Visible ASCII apart from the marks given. -/
def isVisibleExcept (marks : Text) (point : CodePoint) : Bool :=
  0x20 < point.code && point.code < 0x7f && !marks.contains point

/-- How a host is written. -/
inductive Host where
  | absent
  | version4 (text : Text)
  | version6 (text : Text)
  | name (text : Text)
deriving DecidableEq, Repr

namespace Host

/-- Whether a text is four rows of digits with one code point of any kind between two of them. A row
    of `n` digits can also be read as up to `(n + 1) / 2` rows with digits between them. -/
def looksNumeric (host : Text) : Bool :=
  let rows := Text.splitWhere (!CodePoint.isDigit ·) host
  rows.all (!·.isEmpty) && rows.length ≤ 4
    && 4 ≤ rows.foldl (fun total row => total + (row.length + 1) / 2) 0

/-- The text between square brackets. -/
def bracketed? : Text → Option Text
  | '[' :: rest => if rest.getLast? = some (.char ']') then some rest.dropLast else none
  | _ => none

/-- Marks that stand for themselves in a host of ASCII. -/
def plainMarks : Text := "!$&'()*+,;=\x22\x60\x7b\x7d%|\\"

def isPlain (point : CodePoint) : Bool := isUnreserved point || plainMarks.contains point

def ofText (host : Text) : Except UrlFault Host :=
  if host.isEmpty then .ok .absent
  else if looksNumeric host then
    if Address.isVersion4 host then .ok (.version4 host) else .error (.addressUnreadable host 4)
  else
    match bracketed? host with
    | some inner =>
        if Address.isVersion6 inner then .ok (.version6 inner)
        else .error (.addressUnreadable host 6)
    | none =>
        if host.all (·.isAscii) then .ok (.name (escape isPlain host.asciiLower))
        else
          match DomainName.sent? host with
          | some sent => .ok (.name sent)
          | none => .error (.nameUnreadable host)

/-- The host as requests name it. -/
def text : Host → Text
  | .absent => []
  | .version4 text | .name text => text
  | .version6 text => "[" ++ text ++ "]"

/-- Marks that stand for themselves in the host of a redirection. -/
def redirectionMarks : Text := ":/%#?=@[]!$&'()*+,;"

/-- The host to which a request is redirected that names this one. -/
def redirection (host : Host) : Except UrlFault Host :=
  ofText (escape (fun point => isUnreserved point || redirectionMarks.contains point) host.text)

end Host

/-- A host, the user before it and the number of its socket after it. -/
structure Authority where
  user : Text := []
  host : Text := []
  number : Text := []
deriving DecidableEq, Repr

namespace Authority

def isEmpty (authority : Authority) : Bool :=
  authority.user.isEmpty && authority.host.isEmpty && authority.number.isEmpty

/-- A text up to the last one of the given marks, the mark included, and what follows. -/
def cutAfterLast (mark : CodePoint) (text : Text) : Text × Text :=
  let after := (text.reverse.takeWhile (· ≠ mark)).reverse
  (text.take (text.length - after.length), after)

/-- The host and what follows it. A host in square brackets may hold colons. -/
def cutHost (text : Text) : Text × Text :=
  if text.head? = some (.char '[') && text.contains ']' then cutAfterLast ']' text
  else text.span (· ≠ .char ':')

/-- The user ends at the last at sign, and one colon may follow the host. -/
def ofText (text : Text) : Authority :=
  let (front, rest) := cutAfterLast '@' text
  let (host, after) := cutHost rest
  ⟨front.dropLast, host, if after.head? = some (.char ':') then after.drop 1 else after⟩

/-- The most digits of a number. -/
def digitLimit : Nat := 4300

/-- Digits of any script, with single low lines between them. -/
def isDigits (text : Text) : Bool :=
  let rows := Text.splitAt '_' text
  rows.all (fun row => !row.isEmpty && row.all (·.holds Text.isDecimalDigit))
    && rows.flatten.length ≤ digitLimit

/-- Whether a text writes a whole number, with a sign or without, between blanks. -/
def isNumber (text : Text) : Bool :=
  match Text.trim text with
  | '-' :: digits | '+' :: digits => isDigits digits
  | digits => isDigits digits

def hasReadableNumber (authority : Authority) : Bool :=
  authority.number.isEmpty || isNumber authority.number

end Authority

structure Url where
  scheme : Text
  authority : Authority
  host : Host := .absent
  path : Text
  query : Option Text
deriving DecidableEq, Repr

namespace Url

def lengthLimit : Nat := 65536

def isControl (point : CodePoint) : Bool := point.code < 0x20 || point.code = 0x7f

def isSchemePart (point : CodePoint) : Bool :=
  point.holds Char.isAlphanum || point ∈ ("+.-" : Text)

/-- The scheme, and what follows its colon. A colon without a scheme before it is dropped. -/
def splitScheme (text : Text) : Text × Text :=
  match text.span isSchemePart with
  | ([], ':' :: rest) => ([], rest)
  | (first :: scheme, ':' :: rest) =>
      if first.holds Char.isAlpha then (first :: scheme, rest) else ([], text)
  | _ => ([], text)

/-- The authority after two slashes, and what follows it. -/
def splitAuthority : Text → Authority × Text
  | '/' :: '/' :: rest =>
      match rest.span (· ≠ .char '/') with
      | (authority, path) => (.ofText authority, path)
  | path => ({}, path)

/-- The parts of a text without control characters; its fragment is left out. -/
def split (text : Text) : Url :=
  let (front, query) := (text.takeWhile (· ≠ .char '#')).span (· ≠ .char '?')
  let (scheme, rest) := splitScheme front
  let (authority, path) := splitAuthority rest
  { scheme := scheme.asciiLower, authority, path, query := query.tail? }

/-- Whether the URL stands for itself and is not taken below the root. -/
def isAbsolute (url : Url) : Bool := !url.scheme.isEmpty && !url.authority.host.isEmpty

/-- Adds a segment to a path: a dot adds nothing and two dots take the last one away. -/
def addSegment (kept : List Text) (segment : Text) : List Text :=
  if segment = "." then kept
  else if segment = ".." then (if kept = [[]] then kept else kept.dropLast)
  else kept ++ [segment]

def resolveDots (path : Text) : Text :=
  List.intercalate "/" ((Text.splitAt '/' path).foldl addSegment [])

/-- The path on its own. Dots are resolved behind a scheme or an authority. -/
def ownPath (url : Url) : Text :=
  if url.scheme.isEmpty && url.authority.isEmpty then url.path else resolveDots url.path

/-- A path below the root. -/
def belowRoot (path : Text) : Text := '/' :: path.dropWhile (· = .char '/')

/-- The path from the root on, without dot segments. -/
def rootedPath (url : Url) : Text :=
  if url.isAbsolute then url.ownPath else resolveDots (belowRoot url.ownPath)

def isPlainInPath : CodePoint → Bool := isVisibleExcept "\x22#<>?\x60\x7b\x7d"

def isPlainInQuery : CodePoint → Bool := isVisibleExcept "\x22#<>"

/-- Refuses a path that could be taken for another part. -/
def checkPath (url : Url) : Except UrlFault Unit :=
  if url.scheme.isEmpty && url.authority.isEmpty then
    match url.path with
    | '/' :: '/' :: _ => .error .slashesInFront
    | ':' :: _ => .error .colonInFront
    | _ => .ok ()
  else .ok ()

/-- Refuses a URL that would become too long below the root. -/
def checkLengths (url : Url) : Except UrlFault Unit :=
  if url.isAbsolute then .ok ()
  else if lengthLimit < (escape isPlainInPath (belowRoot url.ownPath)).length then
    .error (.partTooLong .path)
  else if url.query.any fun query => lengthLimit < (escape isPlainInQuery query).length then
    .error (.partTooLong .query)
  else .ok ()

/-- Reads the host and refuses what cannot be used. -/
def check (url : Url) : Except UrlFault Url := do
  let host ← Host.ofText url.authority.host
  if !url.authority.hasReadableNumber then throw (.numberUnreadable url.authority.number)
  url.checkPath
  url.checkLengths
  return { url with host }

def parse (text : Text) : Except UrlFault Url :=
  if lengthLimit < text.length then .error .tooLong
  else
    match text.span (!isControl ·) with
    | (before, point :: _) => .error (.controlCharacter point before.length)
    | (_, []) => (split text).check

end Url

end PageCompiler.Service
