/-
  Texts from bytes whose encoding is not named. A mark in front tells the encoding; without one it is
  told from the places of the zero bytes among the first four, which is right for every text that
  starts with two ASCII characters.
-/
import PageCompiler.Text.Utf16

namespace PageCompiler.Text

inductive ByteOrder where
  | big
  | little
deriving DecidableEq, Repr

inductive Encoding where
  | utf8
  | utf16 (order : ByteOrder)
  | utf32 (order : ByteOrder)
deriving DecidableEq, Repr

namespace Encoding

/-- The bytes that mark a text in front. -/
def marks : List (List UInt8 × Encoding) := [
  ([0x00, 0x00, 0xfe, 0xff], .utf32 .big), ([0xff, 0xfe, 0x00, 0x00], .utf32 .little),
  ([0xfe, 0xff], .utf16 .big), ([0xff, 0xfe], .utf16 .little), ([0xef, 0xbb, 0xbf], .utf8)]

/-- The encoding of a text without a mark. -/
def ofZeros : List UInt8 → Encoding
  | [0, _] => .utf16 .big
  | [_, 0] => .utf16 .little
  | 0 :: 0 :: _ :: _ :: _ => .utf32 .big
  | 0 :: _ :: _ :: _ :: _ => .utf16 .big
  | _ :: 0 :: 0 :: 0 :: _ => .utf32 .little
  | _ :: 0 :: _ :: _ :: _ => .utf16 .little
  | _ => .utf8

/-- The encoding of a text, and its bytes without a mark. -/
def detect (bytes : List UInt8) : Encoding × List UInt8 :=
  let marked := marks.findSome? fun (mark, encoding) =>
    (mark.isPrefixOf? bytes).map fun rest => (encoding, rest)
  marked.getD (ofZeros bytes, bytes)

end Encoding

/-- The number that bytes write in the given order. -/
def ByteOrder.value (order : ByteOrder) (bytes : List UInt8) : Nat :=
  let digits := match order with
    | .big => bytes
    | .little => bytes.reverse
  digits.foldl (fun value byte => value * 256 + byte.toNat) 0

/-- The two-byte units of a text; no byte may be left over. -/
def units16 (order : ByteOrder) : List UInt8 → Option (List Nat)
  | [] => some []
  | a :: b :: rest => (units16 order rest).map (order.value [a, b] :: ·)
  | _ => none

/-- The four-byte code points of a text; no byte may be left over. -/
def units32 (order : ByteOrder) : List UInt8 → Option (List Nat)
  | [] => some []
  | a :: b :: c :: d :: rest => (units32 order rest).map (order.value [a, b, c, d] :: ·)
  | _ => none

/-- The text that bytes write. A surrogate without the other one of its pair stands for itself. -/
def Encoding.decode? (encoding : Encoding) (bytes : List UInt8) : Option Text :=
  match encoding with
  | .utf8 => (String.fromUTF8? ⟨bytes.toArray⟩).map ofString
  | .utf16 order =>
      (units16 order bytes).bind fun units => (joinPairs units).mapM CodePoint.ofCode?
  | .utf32 order => (units32 order bytes).bind (·.mapM CodePoint.ofCode?)

/-- The text that bytes write in the encoding that they show. -/
def decode? (bytes : List UInt8) : Option Text :=
  let (encoding, rest) := Encoding.detect bytes
  encoding.decode? rest

end PageCompiler.Text
