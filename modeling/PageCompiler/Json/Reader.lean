/-
  Reading a value from text. The grammar is the standard one, with the words `NaN`, `Infinity` and
  `-Infinity` for the doubles that have no digits. The whole text has to be used up, and the first
  fault from the left is the one that is reported.

  A reader may bound how deep containers stand in one another and how many digits a number has, and
  may refuse strings that hold surrogates.
-/
import PageCompiler.Json.Basic
import PageCompiler.Json.Fault
import PageCompiler.Json.StringLiteral

namespace PageCompiler.Json

/-- Bounds on what is read; an absent bound allows everything. -/
structure Limits where
  /-- The most containers that may stand in one another. -/
  depth : Option Nat := none
  /-- Whether a container without members counts for the depth. -/
  countsEmpty : Bool := true
  /-- The most digits before the point of a number. -/
  digits : Option Nat := none
  /-- Whether the digits of a number with a fraction or an exponent are bounded as well. -/
  boundsDoubles : Bool := false
  /-- Whether a string may hold a surrogate. -/
  allowsSurrogates : Bool := true
deriving DecidableEq, Repr

/-- Whether an amount is beyond a bound. -/
def exceeds (amount : Nat) (bound : Option Nat) : Bool := bound.any (· < amount)

/-- A problem at the start of the given text. -/
def problemAt {α : Type} (problem : Problem) (rest : Text) : Except ReadFault α :=
  .error (.malformed problem rest.length)

def isSpace (point : CodePoint) : Bool := point ∈ (" \n\t\r" : Text)

def skipSpace (text : Text) : Text := text.dropWhile isSpace

/-- The number that a list of decimal digits writes. -/
def digitsValue (digits : Text) : Nat :=
  digits.foldl (fun value digit => value * 10 + (digit.code - 48)) 0

/-- The digits after a point. A point without a digit after it is no part of the number. -/
def readFraction (text : Text) : Option (Text) × Text :=
  match text with
  | '.' :: rest =>
      match rest.span CodePoint.isDigit with
      | ([], _) => (none, text)
      | (digits, after) => (some digits, after)
  | _ => (none, text)

/-- The exponent after its mark. A mark without a digit after its sign is no part of the number. -/
def readExponent (text : Text) : Option Int × Text :=
  match text with
  | [] => (none, text)
  | mark :: rest =>
      if mark = 'e' ∨ mark = 'E' then
        let (negative, unsigned) : Bool × Text :=
          match rest with
          | '-' :: after => (true, after)
          | '+' :: after => (false, after)
          | after => (false, after)
        match unsigned.span CodePoint.isDigit with
        | ([], _) => (none, text)
        | (digits, after) =>
            let magnitude : Int := digitsValue digits
            (some (if negative then -magnitude else magnitude), after)
      else (none, text)

/-- The digits before the point: a single zero or digits that do not start with zero. -/
def readWhole : Text → Option (Text × Text)
  | '0' :: rest => some (['0'], rest)
  | text =>
      match text.span CodePoint.isDigit with
      | ([], _) => none
      | (digits, rest) => some (digits, rest)

/-- The number of the given parts; only one with a fraction or an exponent is a double. -/
def numberOfParts (negative : Bool) (whole : Text) (fraction : Option (Text))
    (exponent : Option Int) : Json :=
  if fraction.isNone && exponent.isNone then
    let magnitude : Int := digitsValue whole
    .int (if negative then -magnitude else magnitude)
  else
    let decimals := fraction.getD []
    let power := exponent.getD 0 - decimals.length
    .float (Binary64.ofDecimal negative (digitsValue (whole ++ decimals)) power)

/-- Reads a number whose sign is known. `start` is the text from the sign on. -/
def readMagnitude (limits : Limits) (negative : Bool) (start text : Text) :
    Except ReadFault (Json × Text) :=
  match readWhole text with
  | none => problemAt .valueExpected start
  | some (whole, rest) =>
      let (fraction, rest) := readFraction rest
      let (exponent, rest) := readExponent rest
      let bounded := limits.boundsDoubles || (fraction.isNone && exponent.isNone)
      if bounded && exceeds whole.length limits.digits then .error (.tooLong whole.length)
      else .ok (numberOfParts negative whole fraction exponent, rest)

def readNumber (limits : Limits) (text : Text) : Except ReadFault (Json × Text) :=
  match text with
  | '-' :: rest =>
      match ("Infinity" : Text).isPrefixOf? rest with
      | some after => .ok (.float (.infinite true), after)
      | none => readMagnitude limits true text rest
  | _ => readMagnitude limits false text text

/-- The words of the format and their values. -/
def words : List (Text × Json) := [
  ("null", .null), ("true", .bool true), ("false", .bool false),
  ("NaN", .float .nan), ("Infinity", .float (.infinite false))]

def readWord (text : Text) : Option (Json × Text) :=
  words.findSome? fun (word, value) => (word.isPrefixOf? text).map fun after => (value, after)

/-- Reads the string that starts after the quotation mark. -/
def readString (limits : Limits) (start : Text) : Except ReadFault (Text × Text) :=
  match readStringBody start with
  | .error fault => .error (.malformed fault.problem (fault.left.getD (start.length + 1)))
  | .ok (text, after) =>
      if limits.allowsSurrogates || text.isScalar then .ok (text, after)
      else problemAt .unitUnreadable start

/-- Reads a value that is no container. -/
def readScalar (limits : Limits) (text : Text) : Except ReadFault (Json × Text) :=
  match text with
  | '\x22' :: rest =>
      match readString limits rest with
      | .error fault => .error fault
      | .ok (value, after) => .ok (.str value, after)
  | _ =>
      match readWord text with
      | some found => .ok found
      | none => readNumber limits text

/-- A container without members that stands in `depth` others. -/
def readEmpty (limits : Limits) (depth : Nat) (value : Json) (after : Text) :
    Except ReadFault (Json × Text) :=
  if limits.countsEmpty && exceeds (depth + 1) limits.depth then .error .tooDeep
  else .ok (value, after)

mutual

/-- Reads a value that stands in `depth` containers, and gives what follows it. `fuel` bounds the
    number of nested and following parts, of which a text has fewer than twice its characters. -/
def readValue (limits : Limits) : Nat → Nat → Text → Except ReadFault (Json × Text)
  | 0, _, text => problemAt .valueExpected text
  | fuel + 1, depth, text =>
      match skipSpace text with
      | '[' :: rest =>
          match skipSpace rest with
          | ']' :: after => readEmpty limits depth (.arr []) after
          | first =>
              if exceeds (depth + 1) limits.depth then .error .tooDeep
              else
                match readItems limits fuel (depth + 1) first with
                | .error fault => .error fault
                | .ok (items, after) => .ok (.arr items, after)
      | '\x7b' :: rest =>
          match skipSpace rest with
          | '\x7d' :: after => readEmpty limits depth (.obj []) after
          | first =>
              if exceeds (depth + 1) limits.depth then .error .tooDeep
              else
                match readFields limits fuel (depth + 1) first with
                | .error fault => .error fault
                | .ok (fields, after) => .ok (.obj fields, after)
      | start => readScalar limits start

/-- Reads one or more items and the closing bracket. -/
def readItems (limits : Limits) : Nat → Nat → Text → Except ReadFault (List Json × Text)
  | 0, _, text => problemAt .valueExpected text
  | fuel + 1, depth, text =>
      match readValue limits fuel depth text with
      | .error fault => .error fault
      | .ok (item, rest) =>
          match skipSpace rest with
          | ']' :: after => .ok ([item], after)
          | ',' :: next =>
              match readItems limits fuel depth next with
              | .error fault => .error fault
              | .ok (items, after) => .ok (item :: items, after)
          | other => problemAt .commaExpected other

/-- Reads one or more fields and the closing brace. A repeated field is kept in all its places. -/
def readFields (limits : Limits) :
    Nat → Nat → Text → Except ReadFault (List (Text × Json) × Text)
  | 0, _, text => problemAt .nameExpected text
  | fuel + 1, depth, text =>
      match skipSpace text with
      | '\x22' :: start =>
          match readString limits start with
          | .error fault => .error fault
          | .ok (name, rest) =>
              match skipSpace rest with
              | ':' :: rest =>
                  match readValue limits fuel depth rest with
                  | .error fault => .error fault
                  | .ok (value, rest) =>
                      match skipSpace rest with
                      | '\x7d' :: after => .ok ([(name, value)], after)
                      | ',' :: next =>
                          match readFields limits fuel depth next with
                          | .error fault => .error fault
                          | .ok (fields, after) => .ok ((name, value) :: fields, after)
                      | other => problemAt .commaExpected other
              | other => problemAt .colonExpected other
      | other => problemAt .nameExpected other

end

/-- The value that a text writes, with repeated fields in all their places. A byte order mark is no
    part of a text. -/
def read (limits : Limits) (text : Text) : Except ReadFault Json :=
  if text.head? = some '\ufeff' then problemAt .markInFront text
  else
    match readValue limits (2 * text.length + 2) 0 text with
    | .error fault => .error fault
    | .ok (value, rest) =>
        match skipSpace rest with
        | [] => .ok value
        | left => problemAt .endExpected left

/-- The value that a text writes, if it is one. -/
def ofText? (text : Text) : Option Json :=
  match read {} text with
  | .ok value => some value.distinct
  | .error _ => none

end PageCompiler.Json
