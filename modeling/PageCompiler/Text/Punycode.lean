/-
  Punycode: a text in the letters, digits and hyphens of ASCII. The ASCII part comes first; then each
  other code point, in ascending order, is written by the distance to its place from the place of the
  one before. Distances are numbers of base 36 whose last digit is known by being small; how small
  depends on the distances before, which is what `adapt` computes.
-/
import PageCompiler.Text.Basic

namespace PageCompiler.Text.Punycode

def digitCode (digit : Nat) : Nat := if digit < 26 then 97 + digit else 22 + digit

def digitOf? (code : Nat) : Option Nat :=
  if 97 ≤ code ∧ code ≤ 122 then some (code - 97)
  else if 48 ≤ code ∧ code ≤ 57 then some (code - 22)
  else none

theorem digitOf?_digitCode : ∀ digit < 36, digitOf? (digitCode digit) = some digit := by
  decide

/-- The least digit that does not end a number, at the place of weight `place`, a multiple of 36. -/
def threshold (place bias : Nat) : Nat := max 1 (min 26 (place - bias))

theorem threshold_pos (place bias : Nat) : 0 < threshold place bias := by
  unfold threshold
  omega

/-- Scales a distance down, and counts the steps in 36s. -/
def scaleDown (distance count : Nat) : Nat × Nat :=
  if 455 < distance then scaleDown (distance / 35) (count + 36) else (distance, count)
termination_by distance
decreasing_by exact Nat.div_lt_self (by omega) (by omega)

/-- The bias after a distance, where `size` code points are in place. -/
def adapt (distance : Nat) (isFirst : Bool) (size : Nat) : Nat :=
  let halved := if isFirst then distance / 700 else distance / 2
  let (scaled, count) := scaleDown (halved + halved / size) 0
  count + 36 * scaled / (scaled + 38)

/-- The digits of a number from the given place on. -/
def numberDigits (bias place value : Nat) : List Nat :=
  let least := threshold place bias
  if value < least then [digitCode value]
  else
    digitCode (least + (value - least) % (36 - least))
      :: numberDigits bias (place + 36) ((value - least) / (36 - least))
termination_by value
decreasing_by
  have := threshold_pos place bias
  have := Nat.div_le_self (value - threshold place bias) (36 - threshold place bias)
  omega

/-- What is known while code points are written: those in place, the distance since the last one, the
    bias, and what is written. -/
structure Writer where
  size : Nat
  distance : Nat
  bias : Nat
  written : List Nat
deriving DecidableEq, Repr

/-- Passes one code point of the text, and writes it if it is the one whose turn it is. -/
def Writer.pass (basic turn : Nat) (writer : Writer) (code : Nat) : Writer :=
  if code < turn then { writer with distance := writer.distance + 1 }
  else if code = turn then
    { size := writer.size + 1
      distance := 0
      bias := adapt writer.distance (writer.size == basic) (writer.size + 1)
      written := writer.written ++ numberDigits writer.bias 36 writer.distance }
  else writer

/-- Writes the code points of the given ascending turns. `next` is the least code that could follow. -/
def writeTurns (codes : List Nat) (basic : Nat) : Nat → Writer → List Nat → List Nat
  | _, writer, [] => writer.written
  | next, writer, turn :: rest =>
      let start := { writer with distance := writer.distance + (turn - next) * (writer.size + 1) }
      let writer := codes.foldl (Writer.pass basic turn) start
      writeTurns codes basic (turn + 1) { writer with distance := writer.distance + 1 } rest

/-- Puts a number into an ascending list without repetitions. -/
def insertTurn (code : Nat) : List Nat → List Nat
  | [] => [code]
  | next :: rest =>
      if code < next then code :: next :: rest
      else if code = next then next :: rest
      else next :: insertTurn code rest

def hyphen : Nat := 45

def encode (codes : List Nat) : List Nat :=
  let basic := codes.filter (· < 0x80)
  let turns := (codes.filter (0x80 ≤ ·)).foldr insertTurn []
  let front := if basic.isEmpty then [] else basic ++ [hyphen]
  front ++ writeTurns codes basic.length 0x80 ⟨basic.length, 0, 72, []⟩ turns

/-- Reads a number from the given place on. -/
def readNumber (bias place weight value : Nat) : List Nat → Option (Nat × List Nat)
  | [] => none
  | code :: rest =>
      match digitOf? code with
      | none => none
      | some digit =>
          let least := threshold place bias
          let value := value + digit * weight
          if digit < least then some (value, rest)
          else readNumber bias (place + 36) (weight * (36 - least)) value rest

/-- Reads code points and puts each in its place. Each takes one digit at least, so `fuel` need not be
    more than the number of digits. -/
def readTurns (isFirst : Bool) (bias place code : Nat) (kept : List Nat) :
    Nat → List Nat → Option (List Nat)
  | _, [] => some kept
  | 0, _ => none
  | fuel + 1, digits =>
      match readNumber bias 36 1 0 digits with
      | none => none
      | some (distance, rest) =>
          let size := kept.length + 1
          let code := code + (place + distance) / size
          let place := (place + distance) % size
          if 0x10ffff < code then none
          else
            let kept := kept.take place ++ code :: kept.drop place
            readTurns false (adapt distance isFirst size) (place + 1) code kept fuel rest

/-- The code points of a text that has no capital letters. -/
def decode? (codes : List Nat) : Option (List Nat) :=
  let digits := (codes.reverse.takeWhile (· ≠ hyphen)).reverse
  let basic := (codes.take (codes.length - digits.length)).dropLast
  readTurns true 72 0 0x80 basic digits.length digits

end PageCompiler.Text.Punycode
