/-
Reading structured data from text. The grammar is the usual one, with the words for numbers that are not finite
allowed; of a key that comes twice the last value counts, in the place of the first. What cannot be read is reported
with the position at which reading stopped. An integer with too many digits is a failure of its own, and so is a bracket
that there is no room for. Halves can stand in texts only, as escapes or as they are; a high one and a low one that are
escaped side by side stand for one character.
-/
import Pagewright.Json.Value
import Pagewright.Number.Numeral

namespace Pagewright.Json

open Text (Half Point Wide)

inductive ReadError where
  | malformed (position : Nat)
  | hugeInteger
  | tooDeep
  deriving DecidableEq, Repr

/-- whether one more bracket can be opened when so many are -/
abbrev Room := Nat → Bool

/-- room for any number of brackets -/
def Room.endless : Room := fun _ => true

/-- a place in the text: how many points lie before it, the characters that are left up to the next half, and what
follows them -/
structure Place where
  position : Nat
  rest : List Char
  more : List (Half × List Char)

namespace Place

def start (w : Wide) : Place := ⟨0, w.start.toList, w.more.map fun m => (m.1, m.2.toList)⟩

def left (p : Place) : Nat := p.rest.length + p.more.foldr (fun m n => m.2.length + 1 + n) 0

def isEnd (p : Place) : Bool := p.rest.isEmpty && p.more.isEmpty

def skip (p : Place) (n : Nat) : Place := { p with position := p.position + n, rest := p.rest.drop n }

/-- blanks between the parts of a value -/
def isSpace (c : Char) : Bool := c = ' ' || c = '\t' || c = '\n' || c = '\r'

def skipSpaces (p : Place) : Place := p.skip (p.rest.takeWhile isSpace).length

def fail {α : Type} (p : Place) : Except ReadError α := .error (.malformed p.position)

/-- does the text go on with `word` -/
def startsWith (p : Place) (word : String) : Bool := word.toList.isPrefixOf p.rest

end Place

/-- the value of a hexadecimal digit -/
def hexValue? (c : Char) : Option Nat :=
  if c.isDigit then some (c.toNat - 48)
  else if 'a' ≤ c && c ≤ 'f' then some (c.toNat - 87)
  else if 'A' ≤ c && c ≤ 'F' then some (c.toNat - 55)
  else none

/-- the value of exactly four hexadecimal digits -/
def hexUnit? (s : List Char) : Option Nat :=
  match s with
  | [a, b, c, d] =>
    match hexValue? a, hexValue? b, hexValue? c, hexValue? d with
    | some a, some b, some c, some d => some (((a * 16 + b) * 16 + c) * 16 + d)
    | _, _, _, _ => none
  | _ => none

/-- the character after a backslash, other than `u` -/
def shortEscape? (c : Char) : Option Char :=
  if c = '"' || c = '\\' || c = '/' then some c
  else if c = 'b' then some (Char.ofNat 8)
  else if c = 'f' then some (Char.ofNat 12)
  else if c = 'n' then some '\n'
  else if c = 'r' then some '\r'
  else if c = 't' then some '\t'
  else none

/-- what the second of two escapes is, if it is the low half that belongs to a high one -/
def lowHalf? (n : Nat) : Option Half := (Half.ofCode? n).filter fun l => !l.isHigh

/-- the escape that starts at `p`, which is at a backslash: its point and its length -/
def readEscape (p : Place) : Except ReadError (Point × Nat) :=
  match p.rest.drop 1 with
  | [] => p.fail
  | 'u' :: r =>
    if r.length < 5 then (p.skip 1).fail
    else match hexUnit? (r.take 4) with
      | none => (p.skip 1).fail
      | some n =>
        match Half.ofCode? n with
        | none => .ok (.char (Char.ofNat n), 6)
        | some h =>
          if h.isHigh && 7 ≤ (r.drop 4).length && ['\\', 'u'].isPrefixOf (r.drop 4) then
            match hexUnit? ((r.drop 6).take 4) with
            | none => (p.skip 7).fail
            | some m =>
              match lowHalf? m with
              | some l => .ok (.char (h.join l), 12)
              | none => .ok (.half h, 6)
          else .ok (.half h, 6)
  | c :: _ =>
    match shortEscape? c with
    | some d => .ok (.char d, 2)
    | none => p.fail

/-- read a text after its opening quote, which stands at position `opening` -/
def readTextFrom (opening : Nat) (fuel : Nat) (p : Place) (read : List Point) : Except ReadError (Wide × Place) :=
  match fuel with
  | 0 => .error (.malformed opening)
  | fuel + 1 =>
    match p.rest with
    | [] =>
      match p.more with
      | [] => .error (.malformed opening)
      | (h, rest) :: more => readTextFrom opening fuel ⟨p.position + 1, rest, more⟩ (.half h :: read)
    | '"' :: _ => .ok (.ofReversed read [] [], p.skip 1)
    | '\\' :: r =>
      if r.isEmpty && p.more.isEmpty then .error (.malformed opening)
      else
        match readEscape p with
        | .error e => .error e
        | .ok (c, n) => readTextFrom opening fuel (p.skip n) (c :: read)
    | c :: _ => if c.toNat < 0x20 then p.fail else readTextFrom opening fuel (p.skip 1) (.char c :: read)

/-- read a text at its opening quote -/
def readText (p : Place) : Except ReadError (Wide × Place) :=
  readTextFrom p.position (p.left + 1) (p.skip 1) []

/-- the length of the decimals after a whole part, if there are any -/
def fractionLength (s : List Char) : Nat :=
  match s with
  | '.' :: r => let n := (r.takeWhile Char.isDigit).length; if n = 0 then 0 else n + 1
  | _ => 0

/-- the length of the exponent part, if there is one -/
def exponentLength (s : List Char) : Nat :=
  match s with
  | c :: r =>
    if c = 'e' || c = 'E' then
      let sign := match r with
        | d :: _ => if d = '-' || d = '+' then 1 else 0
        | [] => 0
      let n := ((r.drop sign).takeWhile Char.isDigit).length
      if n = 0 then 0 else n + sign + 1
    else 0
  | [] => 0

/-- the length of the whole part of a number: a sign, then one zero or digits that start with none -/
def wholeLength (s : List Char) : Nat :=
  let sign := match s with
    | '-' :: _ => 1
    | _ => 0
  match s.drop sign with
  | '0' :: _ => sign + 1
  | c :: r => if c.isDigit then sign + 1 + (r.takeWhile Char.isDigit).length else 0
  | [] => 0

def readNumber (p : Place) : Except ReadError (Value × Place) :=
  let whole := wholeLength p.rest
  if whole = 0 then p.fail
  else
    let fraction := fractionLength (p.rest.drop whole)
    let exponent := exponentLength (p.rest.drop (whole + fraction))
    let lexeme := p.rest.take (whole + fraction + exponent)
    let after := p.skip (whole + fraction + exponent)
    if fraction + exponent = 0 then
      match Number.readInt? lexeme with
      | some n => .ok (.int n, after)
      | none => .error .hugeInteger
    else
      match Number.readDecimal? lexeme with
      | some x => .ok (.float x, after)
      | none => p.fail

/-- the words that stand for a value -/
def words : List (String × Value) :=
  [("null", .null), ("true", .bool true), ("false", .bool false), ("NaN", .float .nan),
    ("Infinity", .float (.infinite false)), ("-Infinity", .float (.infinite true))]

def readPlain (p : Place) : Except ReadError (Value × Place) :=
  match words.find? fun w => p.startsWith w.1 with
  | some w => .ok (w.2, p.skip w.1.length)
  | none => readNumber p

section

variable (room : Room)

mutual

/-- read a value with so many brackets open; `fuel` bounds the number of parts still to be read -/
def readValue (opened fuel : Nat) (p : Place) : Except ReadError (Value × Place) :=
  match fuel with
  | 0 => p.fail
  | fuel + 1 =>
    match p.rest with
    | '"' :: _ =>
      match readText p with
      | .error e => .error e
      | .ok (s, q) => .ok (.text s, q)
    | '\x7b' :: _ =>
      if room opened then
        let q := (p.skip 1).skipSpaces
        match q.rest with
        | '\x7d' :: _ => .ok (.object [], q.skip 1)
        | _ => readMembers (opened + 1) fuel q []
      else .error .tooDeep
    | '[' :: _ =>
      if room opened then
        let q := (p.skip 1).skipSpaces
        match q.rest with
        | ']' :: _ => .ok (.array [], q.skip 1)
        | _ => readItems (opened + 1) fuel q []
      else .error .tooDeep
    | _ => readPlain p

/-- read the members of an object up to its closing brace -/
def readMembers (opened fuel : Nat) (p : Place) (read : Members) : Except ReadError (Value × Place) :=
  match fuel with
  | 0 => p.fail
  | fuel + 1 =>
    match p.rest with
    | '"' :: _ =>
      match readText p with
      | .error e => .error e
      | .ok (key, q) =>
        let q := q.skipSpaces
        match q.rest with
        | ':' :: _ =>
          match readValue opened fuel (q.skip 1).skipSpaces with
          | .error e => .error e
          | .ok (v, q) =>
            let q := q.skipSpaces
            match q.rest with
            | '\x7d' :: _ => .ok (.object (read.put key v), q.skip 1)
            | ',' :: _ => readMembers opened fuel (q.skip 1).skipSpaces (read.put key v)
            | _ => q.fail
        | _ => q.fail
    | _ => p.fail

/-- read the items of a list up to its closing bracket -/
def readItems (opened fuel : Nat) (p : Place) (read : List Value) : Except ReadError (Value × Place) :=
  match fuel with
  | 0 => p.fail
  | fuel + 1 =>
    match readValue opened fuel p with
    | .error e => .error e
    | .ok (v, q) =>
      let q := q.skipSpaces
      match q.rest with
      | ']' :: _ => .ok (.array (v :: read).reverse, q.skip 1)
      | ',' :: _ => readItems opened fuel (q.skip 1).skipSpaces (v :: read)
      | _ => q.fail

end

/-- read a whole text as one value with blanks around it -/
def parseWithin (w : Wide) : Except ReadError Value :=
  match readValue room 0 (2 * w.length + 2) (Place.start w).skipSpaces with
  | .error e => .error e
  | .ok (v, q) => if q.skipSpaces.isEnd then .ok v else q.skipSpaces.fail

end

/-- read a whole text, however deep it nests -/
def parse (s : String) : Except ReadError Value := parseWithin .endless s

end Pagewright.Json
