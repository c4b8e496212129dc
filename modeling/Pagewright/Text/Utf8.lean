/-
Text from bytes. Bytes that are not UTF-8 are no text, or, where nothing may fail, the wrong ones are replaced. Text
from a file has one kind of line end.
-/

namespace Pagewright.Text

/-- every line end as one line feed -/
def plainLineEnds : List Char → List Char
  | [] => []
  | '\r' :: '\n' :: r => '\n' :: plainLineEnds r
  | '\r' :: r => '\n' :: plainLineEnds r
  | c :: r => c :: plainLineEnds r

def ofFile? (b : ByteArray) : Option String :=
  (String.fromUTF8? b).map fun s => String.ofList (plainLineEnds s.toList)

/-- a byte that continues a character -/
def isContinuation (low high : Nat) (b : UInt8) : Bool := low ≤ b.toNat && b.toNat ≤ high

/-- what can follow the first byte of a character: how many bytes, and the bounds of the first of them -/
def continuations (b : Nat) : Option (Nat × Nat × Nat) :=
  if 0xC2 ≤ b && b ≤ 0xDF then some (1, 0x80, 0xBF)
  else if b = 0xE0 then some (2, 0xA0, 0xBF)
  else if b = 0xED then some (2, 0x80, 0x9F)
  else if 0xE1 ≤ b && b ≤ 0xEF then some (2, 0x80, 0xBF)
  else if b = 0xF0 then some (3, 0x90, 0xBF)
  else if b = 0xF4 then some (3, 0x80, 0x8F)
  else if 0xF1 ≤ b && b ≤ 0xF3 then some (3, 0x80, 0xBF)
  else none

/-- how many of the next bytes belong to a character of which `wanted` more are to come -/
def continuedLength (wanted low high : Nat) : List UInt8 → Nat
  | [] => 0
  | b :: r =>
    match wanted with
    | 0 => 0
    | wanted + 1 => if isContinuation low high b then 1 + continuedLength wanted 0x80 0xBF r else 0

/-- the payload of the first byte of a character with `n` more -/
def leadPayload (n b : Nat) : Nat := if n = 1 then b % 32 else if n = 2 then b % 16 else b % 8

/-- the characters of bytes; each longest beginning of a character that is not completed is replaced by one mark -/
def decodeLossy (fuel : Nat) (bytes : List UInt8) : List Char :=
  match fuel with
  | 0 => []
  | fuel + 1 =>
    match bytes with
    | [] => []
    | b :: r =>
      let lead := b.toNat
      if lead < 0x80 then Char.ofNat lead :: decodeLossy fuel r
      else
        match continuations lead with
        | none => Char.ofNat 0xFFFD :: decodeLossy fuel r
        | some (n, low, high) =>
          let k := continuedLength n low high r
          if k = n then
            Char.ofNat ((r.take n).foldl (fun acc c => 64 * acc + c.toNat % 64) (leadPayload n lead)) ::
              decodeLossy fuel (r.drop n)
          else Char.ofNat 0xFFFD :: decodeLossy fuel (r.drop k)

/-- the text of bytes, with marks in place of what is no text -/
def ofBytes (bytes : List UInt8) : String := String.ofList (decodeLossy bytes.length bytes)

end Pagewright.Text
