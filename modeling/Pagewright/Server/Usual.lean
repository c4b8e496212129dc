/-
The usual host. It takes an address without a host in front and without its query, takes the steps that dots stand for, and
decodes percent signs twice, once for the sender and once for the receiver. Bodies of many hundred brackets in one another
can be read; records can be shown if no member of an entry's data has more than 255 levels.
-/
import Pagewright.Server.Handler
import Pagewright.Text.Utf8

namespace Pagewright.Server

open Json (Value Members)

/-- bytes with percent signs decoded; a percent sign without two hexadecimal digits stands for itself -/
def percentDecode : List Char → List UInt8
  | [] => []
  | '%' :: a :: b :: r =>
    match Json.hexValue? a, Json.hexValue? b with
    | some x, some y => (16 * x + y).toUInt8 :: percentDecode r
    | _, _ => '%'.toNat.toUInt8 :: percentDecode (a :: b :: r)
  | c :: r => c.toString.toUTF8.toList ++ percentDecode r

def percentDecoded (s : List Char) : List Char := (Text.ofBytes (percentDecode s)).toList

/-- an address without a host in front, which two slashes announce -/
def withoutHost : List Char → List Char
  | '/' :: '/' :: r => r.dropWhile fun c => c ≠ '/' && c ≠ '?' && c ≠ '#'
  | s => s

/-- one part more of a path, last first: one dot stays, two dots go one part back, but not before the first slash -/
def takePart (taken : List (List Char)) (part : List Char) : List (List Char) :=
  if part = ['.'] then taken
  else if part = ['.', '.'] then
    match taken with
    | [] | [[]] => taken
    | _ :: r => r
  else part :: taken

/-- a path whose dots have been taken for steps -/
def withoutDots (path : List Char) : List Char :=
  ['/'].intercalate ((path.splitOn '/').foldl takePart []).reverse

def addressPath (address : String) : List Char :=
  let path := (withoutHost address.toList).takeWhile fun c => c ≠ '?' && c ≠ '#'
  percentDecoded (percentDecoded (withoutDots ('/' :: path.dropWhile (· = '/'))))

mutual

/-- whether all numbers in a value are finite -/
def allFinite : Value → Bool
  | .float x => x.isFinite
  | .array vs => allFiniteItems vs
  | .object ms => allFiniteMembers ms
  | _ => true

def allFiniteItems : List Value → Bool
  | [] => true
  | v :: vs => allFinite v && allFiniteItems vs

def allFiniteMembers : Members → Bool
  | [] => true
  | (_, v) :: ms => allFinite v && allFiniteMembers ms

end

/-- the usual host; in a record, the members of its data are two levels down -/
def Host.usual : Host where
  pathOf := addressPath
  room opened := opened < 950
  shown? := Store.shownWithin 257
  repeats v := allFinite v && !v.hasHalf
  halved _ := .broken

end Pagewright.Server
