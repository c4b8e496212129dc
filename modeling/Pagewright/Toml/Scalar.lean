/-
Numbers, dates and times of TOML. Each is read as far as it goes; what follows is for the reader to judge.
-/
import Pagewright.Number.Numeral
import Pagewright.Toml.Text

namespace Pagewright.Toml

open Json (Value)

/-- how many characters of digits a text starts with, where one underscore may stand between two digits -/
def digitsLength (isDigit : Char → Bool) : List Char → Nat
  | [] => 0
  | [c] => if isDigit c then 1 else 0
  | c :: d :: r =>
    if !isDigit c then 0
    else if d = '_' then (match r with
      | e :: _ => if isDigit e then 2 + digitsLength isDigit r else 1
      | [] => 1)
    else 1 + digitsLength isDigit (d :: r)

/-- the value of digits in a base; underscores count for nothing -/
def valueIn (base : Nat) (ds : List Char) : Nat :=
  (ds.filterMap Json.hexValue?).foldl (fun n v => base * n + v) 0

/-- a digit of a base up to sixteen -/
def isDigitOf (base : Nat) (c : Char) : Bool :=
  match Json.hexValue? c with
  | some v => v < base
  | none => false

def baseOf? (c : Char) : Option Nat :=
  if c = 'x' then some 16 else if c = 'o' then some 8 else if c = 'b' then some 2 else none

/-- an integer in another base than ten -/
def basedInt? (s : List Char) : Option (Value × List Char) :=
  match s with
  | '0' :: letter :: r =>
    match baseOf? letter with
    | none => none
    | some base =>
      let n := digitsLength (isDigitOf base) r
      if n = 0 then none else some (.int (valueIn base (r.take n)), r.drop n)
  | _ => none

/-- how many characters the sign of a number has -/
def signLength (s : List Char) : Nat :=
  match s with
  | c :: _ => if c = '+' || c = '-' then 1 else 0
  | [] => 0

/-- how many characters the whole part of a number has; a zero stands alone -/
def wholeLength (s : List Char) : Nat :=
  match s with
  | '0' :: _ => 1
  | _ => digitsLength Char.isDigit s

/-- how many characters the fraction of a number has, with its point -/
def fractionLength (s : List Char) : Nat :=
  match s with
  | '.' :: r => let n := digitsLength Char.isDigit r; if n = 0 then 0 else 1 + n
  | _ => 0

/-- how many characters the exponent of a number has, with its letter -/
def exponentLength (s : List Char) : Nat :=
  match s with
  | c :: r =>
    if c = 'e' || c = 'E' then
      let sign := signLength r
      let n := digitsLength Char.isDigit (r.drop sign)
      if n = 0 then 0 else 1 + sign + n
    else 0
  | [] => 0

def decimal? (s : List Char) : Option (Except Fault (Value × List Char)) :=
  let sign := signLength s
  let whole := wholeLength (s.drop sign)
  if whole = 0 then none
  else
    let n := sign + whole
    let fraction := fractionLength (s.drop n)
    let exponent := exponentLength (s.drop (n + fraction))
    let length := n + fraction + exponent
    let numeral := s.take length
    some (if fraction + exponent = 0 then
        match Number.readInt? numeral with
        | some i => .ok (.int i, s.drop length)
        | none => .error .hugeInteger
      else
        match Number.readDecimal? numeral with
        | some x => .ok (.float x, s.drop length)
        | none => refuse)

/-- the words for numbers that have no digits -/
def wordNumbers : List (String × Number.Binary64) :=
  [("inf", .infinite false), ("nan", .nan), ("+inf", .infinite false), ("-inf", .infinite true), ("+nan", .nan),
    ("-nan", .nan)]

def wordNumber? (s : List Char) : Option (Value × List Char) :=
  (wordNumbers.find? fun w => w.1.toList.isPrefixOf s).map fun w => (.float w.2, s.drop w.1.length)

/-- a number of exactly `width` digits -/
def fixedDigits? (width : Nat) (s : List Char) : Option (Nat × List Char) :=
  let ds := s.take width
  if ds.length = width && ds.all Char.isDigit then some (Number.digitsValue ds, s.drop width) else none

/-- a character that has to stand here -/
def expectChar? (c : Char) : List Char → Option (List Char)
  | d :: r => if c = d then some r else none
  | [] => none

/-- a number of two digits, at most `last` -/
def upTo? (last : Nat) (s : List Char) : Option (Nat × List Char) := do
  let (n, r) ← fixedDigits? 2 s
  if n ≤ last then some (n, r) else none

/-- what follows the seconds of a time: a fraction, if there is one -/
def afterFraction (s : List Char) : List Char :=
  match s with
  | '.' :: r => if (r.takeWhile Char.isDigit).isEmpty then s else r.dropWhile Char.isDigit
  | _ => s

/-- what follows a time of day -/
def afterTime? (s : List Char) : Option (List Char) := do
  let (_, r) ← upTo? 23 s
  let r ← expectChar? ':' r
  let (_, r) ← upTo? 59 r
  let r ← expectChar? ':' r
  let (_, r) ← upTo? 59 r
  pure (afterFraction r)

/-- what follows the distance from universal time, if there is one -/
def afterOffset (s : List Char) : List Char :=
  match s with
  | c :: r =>
    if c = 'Z' || c = 'z' then r
    else if c = '+' || c = '-' then
      (do
        let (_, t) ← upTo? 23 r
        let t ← expectChar? ':' t
        let (_, t) ← upTo? 59 t
        pure t : Option (List Char)).getD s
    else s
  | [] => s

/-- the number of days of a month -/
def daysIn (year month : Nat) : Nat :=
  if month = 2 then (if year % 4 = 0 && (year % 100 ≠ 0 || year % 400 = 0) then 29 else 28)
  else if [4, 6, 9, 11].contains month then 30
  else 31

/-- a date in its written form: year, month and day, where the day may be too great for the month -/
def date? (s : List Char) : Option ((Nat × Nat × Nat) × List Char) := do
  let (year, r) ← fixedDigits? 4 s
  let r ← expectChar? '-' r
  let (month, r) ← upTo? 12 r
  let r ← expectChar? '-' r
  let (day, r) ← upTo? 31 r
  if month = 0 || day = 0 then none else some ((year, month, day), r)

/-- what follows a date: a time of day with or without a distance from universal time, or nothing -/
def afterDate (s : List Char) : List Char :=
  match s with
  | c :: r =>
    if c = 'T' || c = 't' || c = ' ' then
      match afterTime? r with
      | some t => afterOffset t
      | none => s
    else s
  | [] => s

def moment? (s : List Char) : Option (Except Fault (Value × List Char)) :=
  let upToRest (r : List Char) : Value × List Char := (.moment (String.ofList (s.take (s.length - r.length))), r)
  match date? s with
  | some ((year, month, day), r) =>
    some (if year = 0 || daysIn year month < day then refuse else .ok (upToRest (afterDate r)))
  | none => (afterTime? s).map fun r => .ok (upToRest r)

def scalar (s : List Char) : Except Fault (Value × List Char) :=
  match moment? s with
  | some r => r
  | none =>
    match basedInt? s with
    | some r => .ok r
    | none =>
      match decimal? s with
      | some r => r
      | none =>
        match wordNumber? s with
        | some r => .ok r
        | none => refuse

end Pagewright.Toml
