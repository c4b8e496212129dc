/-
Places for values in a message, and how a value is shown in one. A letter says whether the value is shown as text, as an
integer in some base, as a number with a point, or as one character; flags, width and precision say how it is laid out.
-/
import Pagewright.Json.Writer
import Pagewright.Number.Numeral
import Pagewright.Number.Rounded
import Pagewright.Text.Quoted

namespace Pagewright.Log

open Json (Value Members)
open Number (Binary64)
open Text (Point Wide)

/-- why a message cannot be put together -/
inductive TemplateFault where
  | tooFew
  | tooMany
  | notANumber (letter : Char) (type : String)
  | notAnInteger (letter : Char) (type : String)
  | notReal (type : String)
  | notACharacter
  | notACodePoint
  | infinite
  | tooLarge
  | hugeInteger
  | widthNotInteger
  | widthTooLarge
  | precisionTooLarge
  | notAMapping
  | unknownKey
  | malformed
  | noRoom
  deriving DecidableEq, Repr

def TemplateFault.message : TemplateFault → String
  | .tooFew => "not enough arguments for format string"
  | .tooMany => "not all arguments converted during string formatting"
  | .notANumber c type => "%" ++ c.toString ++ " format: a real number is required, not " ++ type
  | .notAnInteger c type => "%" ++ c.toString ++ " format: an integer is required, not " ++ type
  | .notReal type => "must be real number, not " ++ type
  | .notACharacter => "%c requires int or char"
  | .notACodePoint => "%c arg not in range(0x110000)"
  | .infinite => "cannot convert float infinity to integer"
  | .tooLarge => "int too large to convert to float"
  | .hugeInteger => "Exceeds the limit (4300 digits) for integer string conversion"
  | .widthNotInteger => "* wants int"
  | .widthTooLarge => "Python int too large to convert to C ssize_t"
  | .precisionTooLarge => "Python int too large to convert to C int"
  | .notAMapping => "format requires a mapping"
  | .unknownKey => "no value for a key"
  | .malformed => "malformed format"
  | .noRoom => ""

structure Place where
  left : Bool
  zero : Bool
  plus : Bool
  space : Bool
  alternate : Bool
  width : Nat
  precision : Option Nat
  letter : Char

/-- what a value is called in a complaint -/
def typeName : Value → String
  | .null => "NoneType"
  | .bool _ => "bool"
  | .int _ => "int"
  | .float _ => "float"
  | .text _ => "str"
  | .moment _ => "datetime"
  | .array _ => "list"
  | .object _ => "dict"

def integer? : Value → Option Int
  | .bool b => some (if b then 1 else 0)
  | .int n => some n
  | _ => none

namespace Place

def pad {α : Type} (p : Place) (blank : α) (s : List α) : List α :=
  let gap := List.replicate (p.width - s.length) blank
  if p.left then s ++ gap else gap ++ s

/-- a text, cut to its precision, in its width -/
def padCut (p : Place) (s : Wide) : Wide :=
  .ofPoints (p.pad (.char ' ') (match p.precision with
    | some n => s.points.take n
    | none => s.points))

/-- a number in its width: its sign, the mark of its base, and its digits. Where zeros are asked for they stand before
the digits. -/
def padNumber (p : Place) (negative : Bool) (mark digits : List Char) : String :=
  let sign := if negative then ['-'] else if p.plus then ['+'] else if p.space then [' '] else []
  let lead := sign ++ mark
  if p.zero && !p.left then
    String.ofList (lead ++ List.replicate (p.width - lead.length - digits.length) '0' ++ digits)
  else String.ofList (p.pad ' ' (lead ++ digits))

/-- an integer in a base; precision is the least number of digits -/
def showInBase (p : Place) (base : Nat) (mark : List Char) (n : Int) : String :=
  let ds := Nat.toDigits base n.natAbs
  p.padNumber (n < 0) (if p.alternate then mark else [])
    (List.replicate (p.precision.getD 0 - ds.length) '0' ++ ds)

/-- the integer in a value, where fractions are cut off -/
def wholePart (p : Place) (v : Value) : Except TemplateFault Int :=
  match v with
  | .float (.finite negative m e) =>
    let (n, d) := Binary64.ratio m e
    .ok (Number.signed negative (n / d))
  | .float (.infinite _) => .error .infinite
  | .float .nan => .error .malformed
  | v =>
    match integer? v with
    | some n => .ok n
    | none => .error (.notANumber p.letter (typeName v))

/-- the integer in a value that is to be shown in another base -/
def exactInteger (p : Place) (v : Value) : Except TemplateFault Int :=
  match integer? v with
  | some n => .ok n
  | none => .error (.notAnInteger p.letter (typeName v))

/-- the nearest number to a value -/
def real (v : Value) : Except TemplateFault Binary64 :=
  match v with
  | .float x => .ok x
  | v =>
    match integer? v with
    | none => .error (.notReal (typeName v))
    | some n =>
      match Binary64.ofRatio (n < 0) n.natAbs 1 with
      | .infinite _ => .error .tooLarge
      | x => .ok x

/-- the digits of a finite number; the letter says in which of the three ways -/
def realDigits (p : Place) (num den : Nat) : List Char :=
  let places := p.precision.getD 6
  match p.letter.toLower with
  | 'e' => Number.exponentialText p.alternate places num den
  | 'g' => Number.generalText p.alternate places num den
  | _ => Number.fixedText p.alternate places num den

/-- a number with a point, in capitals if its letter is one -/
def showReal (p : Place) (x : Binary64) : String :=
  let digits := match x with
    | .finite _ m e => let (n, d) := Binary64.ratio m e; p.realDigits n d
    | .infinite _ => "inf".toList
    | .nan => "nan".toList
  p.padNumber x.isNegative [] (if p.letter.isUpper then digits.map Char.toUpper else digits)

/-- the one point that a value is, itself or by its code -/
def character (v : Value) : Except TemplateFault Point :=
  match v with
  | .text s =>
    match s.points with
    | [c] => .ok c
    | _ => .error .notACharacter
  | v =>
    match integer? v with
    | none => .error .notACharacter
    | some n => if 0 ≤ n && n < 0x110000 then .ok (.ofCode n.toNat) else .error .notACodePoint

/-- a text in which every character beyond ASCII is escaped -/
def inAscii (s : String) : String :=
  String.ofList (s.toList.flatMap fun c => if c.toNat < 0x80 then [c] else Text.escapedCodePoint c.toNat)

/-- a value that is shown in decimal, unless it is too long for that -/
def writable (v : Value) : Except TemplateFault Value := if v.isWritable then .ok v else .error .hugeInteger

/-- an integer in a base, if the value is one -/
def inBase (p : Place) (base : Nat) (mark : List Char) (v : Value) : Except TemplateFault String :=
  (p.exactInteger v).map (p.showInBase base mark)

/-- a value in its place, if there is room for it -/
def laidOut (p : Place) (v : Value) : Except TemplateFault Wide :=
  match p.letter with
  | 's' => (writable v).map fun v => p.padCut v.display
  | 'r' => (writable v).map fun v => p.padCut v.quoted
  | 'a' => (writable v).map fun v => p.padCut (inAscii v.quoted)
  | 'c' => (character v).map fun c => .ofPoints (p.pad (.char ' ') [c])
  | 'd' | 'i' | 'u' => do
    let n ← p.wholePart v
    let _ ← writable (.int n)
    .ok (p.showInBase 10 [] n)
  | 'o' => (p.inBase 8 ['0', 'o'] v).map .ofString
  | 'x' => (p.inBase 16 ['0', 'x'] v).map .ofString
  | 'X' => (p.inBase 16 ['0', 'x'] v).map fun s => String.ofList (s.toList.map Char.toUpper)
  | 'e' | 'E' | 'f' | 'F' | 'g' | 'G' => (real v).map fun x => p.showReal x
  | _ => .error .malformed

/-- the width from which on there is no room for a value -/
def widthLimit : Nat := 0x10000000000

def shown (p : Place) (v : Value) : Except TemplateFault Wide :=
  if p.width < widthLimit then p.laidOut v
  else
    match { p with width := 0 }.laidOut v with
    | .ok _ => .error .noRoom
    | .error e => .error e

end Place

end Pagewright.Log
