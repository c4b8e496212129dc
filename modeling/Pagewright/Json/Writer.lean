/-
Structured data as text in ASCII. A character outside the printable ASCII range is written as `\u` and four hexadecimal
digits, beyond `U+FFFF` as a pair of them, and a half as it would stand in a pair. `Value.compact` writes on one line,
`Value.pretty` one item a line. There is no limit on how deep a value may be nested.
-/
import Pagewright.Json.Value
import Pagewright.Number.Numeral
import Pagewright.Number.Shortest
import Pagewright.Text.Lines
import Pagewright.Text.Quoted

namespace Pagewright.Json

open Text (Point Wide)

def unitEscape (n : Nat) : List Char :=
  ['\\', 'u'] ++ Text.hexadecimal 4 n

/-- the escape of a code point: one unit, or a pair of them beyond `U+FFFF` -/
def codePointEscape (n : Nat) : List Char :=
  if n < 0x10000 then unitEscape n
  else unitEscape (0xD800 + (n - 0x10000) / 0x400) ++ unitEscape (0xDC00 + (n - 0x10000) % 0x400)

def encodeChar (c : Char) : List Char :=
  if c = '"' then ['\\', '"']
  else if c = '\\' then ['\\', '\\']
  else if c = '\n' then ['\\', 'n']
  else if c = '\r' then ['\\', 'r']
  else if c = '\t' then ['\\', 't']
  else if c.toNat = 8 then ['\\', 'b']
  else if c.toNat = 12 then ['\\', 'f']
  else if 0x20 ≤ c.toNat && c.toNat ≤ 0x7E then [c]
  else codePointEscape c.toNat

def encodePoint : Point → List Char
  | .char c => encodeChar c
  | .half h => unitEscape h.code

def encodeText (s : Wide) : String :=
  String.ofList (['"'] ++ s.points.flatMap encodePoint ++ ['"'])

def intText (n : Int) : String :=
  if n < 0 then "-" ++ toString n.natAbs else toString n.natAbs

mutual

/-- whether a value can be written: an integer has no more digits than one that can be read. The functions that follow write
any value; it is their callers who refuse one that is not writable. -/
def Value.isWritable : Value → Bool
  | .int n => (Nat.toDigits 10 n.natAbs).length ≤ Number.digitLimit
  | .array items => writableItems items
  | .object ms => writableMembers ms
  | _ => true

def writableItems : List Value → Bool
  | [] => true
  | v :: vs => v.isWritable && writableItems vs

def writableMembers : List (Wide × Value) → Bool
  | [] => true
  | m :: ms => m.2.isWritable && writableMembers ms

end

/-- items between two marks, with a comma and a blank between neighbours -/
def enclosed (opening closing : String) (items : List String) : String :=
  opening ++ ", ".intercalate items ++ closing

mutual

/-- a value on one line -/
def Value.compact : Value → String
  | .null => "null"
  | .bool true => "true"
  | .bool false => "false"
  | .int n => intText n
  | .float x => x.text Number.scriptWords
  | .text s => encodeText s
  | .moment s => encodeText s
  | .array items => enclosed "[" "]" (compactItems items)
  | .object ms => enclosed Text.openBrace Text.closeBrace (compactMembers ms)

/-- the items of a list, each on one line -/
def compactItems : List Value → List String
  | [] => []
  | v :: vs => v.compact :: compactItems vs

/-- the members of an object, each on one line -/
def compactMembers : List (Wide × Value) → List String
  | [] => []
  | m :: ms => (encodeText m.1 ++ ": " ++ m.2.compact) :: compactMembers ms

end

/-- items one a line between two marks, at a depth; nothing stands between the marks of an empty one -/
def layered (opening closing : String) (depth : Nat) (items : List String) : String :=
  if items.isEmpty then opening ++ closing
  else
    let newline := "\n" ++ Text.repeated ' ' (2 * depth)
    opening ++ newline ++ "  " ++ ("," ++ newline ++ "  ").intercalate items ++ newline ++ closing

mutual

/-- a value with one item a line, two columns a level -/
def Value.prettyAt (depth : Nat) : Value → String
  | .array items => layered "[" "]" depth (prettyItems (depth + 1) items)
  | .object ms => layered Text.openBrace Text.closeBrace depth (prettyMembers (depth + 1) ms)
  | v => v.compact

/-- the items of a list at a depth -/
def prettyItems (depth : Nat) : List Value → List String
  | [] => []
  | v :: vs => v.prettyAt depth :: prettyItems depth vs

/-- the members of an object at a depth -/
def prettyMembers (depth : Nat) : List (Wide × Value) → List String
  | [] => []
  | m :: ms => (encodeText m.1 ++ ": " ++ m.2.prettyAt depth) :: prettyMembers depth ms

end

/-- a value with one item a line -/
def Value.pretty (v : Value) : String :=
  v.prettyAt 0

mutual

/-- a value as a message shows it: texts quoted, words capitalised -/
def Value.quoted : Value → String
  | .null => "None"
  | .bool true => "True"
  | .bool false => "False"
  | .int n => intText n
  | .float x => x.text Number.plainWords
  | .text s => Text.quoted s
  | .moment s => s
  | .array items => enclosed "[" "]" (quotedItems items)
  | .object ms => enclosed Text.openBrace Text.closeBrace (quotedMembers ms)

/-- the items of a list as a message shows them -/
def quotedItems : List Value → List String
  | [] => []
  | v :: vs => v.quoted :: quotedItems vs

/-- the members of an object as a message shows them -/
def quotedMembers : List (Wide × Value) → List String
  | [] => []
  | m :: ms => (Text.quoted m.1 ++ ": " ++ m.2.quoted) :: quotedMembers ms

end

/-- a value as a sentence shows it: a text as it is, all else as a message shows it -/
def Value.display : Value → Wide
  | .text s => s
  | v => v.quoted

end Pagewright.Json
