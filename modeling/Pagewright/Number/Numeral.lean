/-
Reading numerals. An integer numeral is an optional sign and digits, with single underscores allowed between digits; a
point numeral has a point, digits on at least one side of it and an optional exponent. Blanks around either are
dropped, and the digits may be of any script. An integer of more than `digitLimit` digits is refused, leading zeros
counted.
-/
import Pagewright.Number.Binary64
import Pagewright.Text.Digit

namespace Pagewright.Number

/-- the greatest number of digits an integer numeral may have -/
def digitLimit : Nat := 4300

def digitValue (c : Char) : Nat :=
  c.toNat - '0'.toNat

def digitsValue (ds : List Char) : Nat :=
  ds.foldl (fun n c => 10 * n + digitValue c) 0

/-- what is left of a sign: is it negative, and the rest -/
def splitSign : List Char → Bool × List Char
  | '-' :: r => (true, r)
  | '+' :: r => (false, r)
  | r => (false, r)

/-- drop the underscores of a run of digits, each of which must stand between two digits -/
def dropUnderscores : List Char → Option (List Char)
  | [] => none
  | [c] => if c.isDigit then some [c] else none
  | c :: '_' :: r => if c.isDigit then (dropUnderscores r).map (c :: ·) else none
  | c :: r => if c.isDigit then (dropUnderscores r).map (c :: ·) else none

def signed (negative : Bool) (n : Nat) : Int :=
  if negative then -(n : Int) else n

/-- read an integer numeral; `none` also when it has too many digits -/
def readInt? (s : List Char) : Option Int :=
  let (negative, r) := splitSign (Text.plainNumeral s)
  match dropUnderscores r with
  | none => none
  | some ds => if digitLimit < ds.length then none else some (signed negative (digitsValue ds))

/-- a run of digits that may be empty -/
def optionalDigits (s : List Char) : Option (List Char) :=
  if s.isEmpty then some [] else dropUnderscores s

def splitAtFirst (p : Char → Bool) (s : List Char) : List Char × Option (List Char) :=
  match s.dropWhile (fun c => !p c) with
  | [] => (s, none)
  | _ :: r => (s.takeWhile (fun c => !p c), some r)

def readExponent? : Option (List Char) → Option Int
  | none => some 0
  | some s =>
    let (negative, r) := splitSign s
    (dropUnderscores r).map fun ds => signed negative (digitsValue ds)

/-- read a numeral with or without a point and an exponent -/
def readDecimal? (s : List Char) : Option Binary64 :=
  let (negative, r) := splitSign (Text.plainNumeral s)
  let (body, exponent) := splitAtFirst (fun c => c = 'e' || c = 'E') r
  let (whole, fraction) := splitAtFirst (· = '.') body
  match optionalDigits whole, optionalDigits (fraction.getD []), readExponent? exponent with
  | some w, some f, some e =>
    if w.isEmpty && f.isEmpty then none
    else some (Binary64.ofDecimal negative (digitsValue (w ++ f)) (e - f.length))
  | _, _, _ => none

/-- read any number a text may stand for, the words for infinity and for an undefined number included -/
def readNumber? (s : List Char) : Option Binary64 :=
  let (negative, r) := splitSign (Text.plainNumeral s)
  let word := String.ofList (r.map Char.toLower)
  if word = "inf" || word = "infinity" then some (.infinite negative)
  else if word = "nan" then some .nan
  else readDecimal? s

end Pagewright.Number
