/-
Bytes of structured data as text. The text may come in one of five encodings; since its first two characters are of
ASCII, the zeros among the first bytes tell which one it is.
-/
import Pagewright.Json.Reader

namespace Pagewright.Json

open Text (Half Point Wide)

/-- an encoding of text; in the wider ones the order of bytes is told too -/
inductive Encoding where
  | utf8
  | utf16 (bigEndian : Bool)
  | utf32 (bigEndian : Bool)
  deriving DecidableEq, Repr

/-- the encoding of bytes, told by their first four, or by both if there are two -/
def Encoding.ofBytes : List UInt8 → Encoding
  | a :: b :: c :: d :: _ =>
    if a = 0 then if b = 0 then .utf32 true else .utf16 true
    else if b = 0 then if c = 0 && d = 0 then .utf32 false else .utf16 false
    else .utf8
  | [a, b] => if a = 0 then .utf16 true else if b = 0 then .utf16 false else .utf8
  | _ => .utf8

/-- the number that two bytes stand for -/
def pairValue (bigEndian : Bool) (a b : UInt8) : Nat :=
  if bigEndian then 256 * a.toNat + b.toNat else 256 * b.toNat + a.toNat

/-- the units of two bytes; nothing when a byte is left over -/
def unitsOfBytes (bigEndian : Bool) : List UInt8 → Option (List Nat)
  | [] => some []
  | a :: b :: r => (unitsOfBytes bigEndian r).map (pairValue bigEndian a b :: ·)
  | [_] => none

/-- the points of bytes, four for each -/
def pointsOfQuads (bigEndian : Bool) : List UInt8 → Option (List Point)
  | [] => some []
  | a :: b :: c :: d :: r =>
    let n :=
      if bigEndian then 65536 * pairValue true a b + pairValue true c d
      else pairValue false a b + 65536 * pairValue false c d
    if n < 0x110000 then (pointsOfQuads bigEndian r).map (.ofCode n :: ·) else none
  | _ => none

/-- the text of bytes in an encoding; a mark in front of UTF-8 is no part of it. Of units of two bytes, a high half and a low
one after it are one character. -/
def Encoding.decode? (e : Encoding) (b : ByteArray) : Option Wide :=
  match e with
  | .utf8 =>
    (String.fromUTF8? b).map fun s =>
      match s.toList with
      | c :: r => if c = Char.ofNat 0xFEFF then String.ofList r else s
      | [] => s
  | .utf16 bigEndian =>
    (unitsOfBytes bigEndian b.toList).map fun units => .ofPoints (Text.joinPairs (units.map .ofCode))
  | .utf32 bigEndian => (pointsOfQuads bigEndian b.toList).map .ofPoints

inductive BytesError where
  | notText
  | unreadable (e : ReadError)
  deriving DecidableEq, Repr

def parseBytes (room : Room) (b : ByteArray) : Except BytesError Value :=
  match (Encoding.ofBytes b.toList).decode? b with
  | none => .error .notText
  | some w => (parseWithin room w).mapError .unreadable

end Pagewright.Json
