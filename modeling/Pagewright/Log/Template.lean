/-
Messages with places for values. A place is a percent sign, then optionally a key in brackets, flags, a width and a
precision, and a letter that says how the value is shown; a width or precision may itself be a value. Values are taken in
their order, or by key from one object. Two percent signs stand for one. The message itself is a plain text; the values may
put halves into it.
-/
import Pagewright.Log.Place
import Pagewright.Number.Word

namespace Pagewright.Log

open Json (Value Members)
open Text (Point Wide)

/-- the values for a message: what keys lead to, and what is to be taken next -/
structure Supply where
  mapping : Option Members
  values : List Value

namespace Supply

def next (s : Supply) : Except TemplateFault (Value × Supply) :=
  match s.values with
  | v :: vs => .ok (v, { s with values := vs })
  | [] => .error .tooFew

/-- the next value, which has to be an integer that there is room for -/
def nextInteger (s : Supply) (fits : Int → Bool) (beyond : TemplateFault) : Except TemplateFault (Int × Supply) := do
  let (v, s) ← s.next
  match integer? v with
  | some n => if fits n then .ok (n, s) else .error beyond
  | none => .error .widthNotInteger

/-- values that no place was left for; of an object nothing need be taken -/
def isLeftOver (s : Supply) : Bool := s.mapping.isNone && !s.values.isEmpty

end Supply

/-- a key in brackets, which may hold brackets in pairs -/
def readKey (depth : Nat) : List Char → Option (List Char × List Char)
  | [] => none
  | c :: r =>
    if c = '(' then (readKey (depth + 1) r).map fun p => (c :: p.1, p.2)
    else if c = ')' then
      match depth with
      | 0 => some ([], r)
      | depth + 1 => (readKey depth r).map fun p => (c :: p.1, p.2)
    else (readKey depth r).map fun p => (c :: p.1, p.2)

/-- after a key, its value is the only one that can be taken -/
def takeKey (s : List Char) (supply : Supply) : Except TemplateFault (List Char × Supply) :=
  match s with
  | '(' :: r =>
    match supply.mapping, readKey 0 r with
    | none, _ => .error .notAMapping
    | some _, none => .error .malformed
    | some ms, some (key, t) =>
      match ms.get? (String.ofList key) with
      | some v => .ok (t, { supply with values := [v] })
      | none => .error .unknownKey
  | _ => .ok (s, supply)

def isFlag (c : Char) : Bool := c = '-' || c = '+' || c = ' ' || c = '#' || c = '0'

/-- a number that is written out, or a star for the next value; without either there is none. A number that is written
out and has no room makes no sense. -/
def takeNumber (fits : Int → Bool) (beyond : TemplateFault) (s : List Char) (supply : Supply) :
    Except TemplateFault (Option Int × List Char × Supply) :=
  match s with
  | '*' :: r => do
    let (n, supply) ← supply.nextInteger fits beyond
    .ok (some n, r, supply)
  | _ =>
    let ds := s.takeWhile Char.isDigit
    let n : Int := Number.digitsValue ds
    if !fits n then .error .malformed
    else .ok (if ds.isEmpty then none else some n, s.dropWhile Char.isDigit, supply)

/-- a precision after a point; a negative one counts as zero -/
def takePrecision (s : List Char) (supply : Supply) : Except TemplateFault (Option Nat × List Char × Supply) :=
  match s with
  | '.' :: r => do
    let (n, t, supply) ← takeNumber Number.fitsHalfWord .precisionTooLarge r supply
    .ok (some (n.getD 0).toNat, t, supply)
  | _ => .ok (none, s, supply)

/-- one letter for the size of a number, which says nothing -/
def skipSize : List Char → List Char
  | c :: r => if c = 'h' || c = 'l' || c = 'L' then r else c :: r
  | [] => []

/-- a place, after its percent sign, and the characters and values after it; a negative width puts its value to the left -/
def takePlace (s : List Char) (supply : Supply) : Except TemplateFault (Place × List Char × Supply) := do
  let (s, supply) ← takeKey s supply
  let flags := s.takeWhile isFlag
  let (width, s, supply) ← takeNumber Number.fitsWord .widthTooLarge (s.dropWhile isFlag) supply
  let (precision, s, supply) ← takePrecision s supply
  let width := width.getD 0
  match skipSize s with
  | [] => .error .malformed
  | c :: r =>
    .ok (⟨flags.contains '-' || width < 0, flags.contains '0', flags.contains '+', flags.contains ' ',
      flags.contains '#', width.natAbs, precision, c⟩, r, supply)

/-- fill the places of a message; `done` is the text so far, last first -/
def fillWithin (fuel : Nat) (s : List Char) (supply : Supply) (done : List Point) : Except TemplateFault Wide :=
  match fuel with
  | 0 => .error .malformed
  | fuel + 1 =>
    match s with
    | [] => if supply.isLeftOver then .error .tooMany else .ok (.ofReversed done [] [])
    | '%' :: '%' :: r => fillWithin fuel r supply (.char '%' :: done)
    | '%' :: r => do
      let (p, r, supply) ← takePlace r supply
      let (v, supply) ← supply.next
      let text ← p.shown v
      fillWithin fuel r supply (text.points.reverse ++ done)
    | c :: r => fillWithin fuel r supply (.char c :: done)

/-- a message with its values in place; without values it is taken as it is, and of a single object that is not empty
the values are taken by key -/
def fill (message : String) (args : List Value) : Except TemplateFault Wide :=
  let within (s : Supply) := fillWithin (message.length + 1) message.toList s []
  match args with
  | [] => .ok message
  | [.object (m :: ms)] => within ⟨some (m :: ms), [.object (m :: ms)]⟩
  | vs => within ⟨none, vs⟩

end Pagewright.Log
