/-
Integers from texts that people fill in. A text in the strict form, a minus sign and then a zero or digits that do not
start with one, is taken as it is. Any other is tidied first: blanks around it, a plus sign, zeros in front, decimals that
are all zero and single underscores between digits are taken away. What is then not in the strict form is no integer. A
strict form that is too long is told apart only in a text that starts with it.
-/
import Pagewright.Number.Numeral

namespace Pagewright.Number

inductive LenientFault where
  | unreadable
  | tooLong
  deriving DecidableEq, Repr

/-- an integer in the strict form -/
def readStrict (s : List Char) : Except LenientFault Int :=
  let (negative, r) := match s with
    | '-' :: r => (true, r)
    | _ => (false, s)
  match r with
  | ['0'] => .ok 0
  | '0' :: _ => .error .unreadable
  | _ =>
    let ds := r.takeWhile Char.isDigit
    if digitLimit < s.length - r.length + ds.length then .error .tooLong
    else if ds.isEmpty || ds.length < r.length then .error .unreadable
    else .ok (signed negative (digitsValue ds))

/-- a text without its plus sign, after which no minus may stand -/
def dropPlus (s : List Char) : Option (List Char) :=
  match s with
  | '+' :: '-' :: _ => none
  | '+' :: r => some r
  | _ => some s

/-- the rest of a text after zeros and underscores, of which `last` is the one just passed. A minus may follow them; before
a point, or at the end, the last one stays. -/
def afterZeros (last : Char) : List Char → Option (List Char)
  | [] => some [last]
  | c :: r =>
    if c = '0' || c = '_' then afterZeros c r
    else if c = '.' then some (last :: c :: r)
    else if c.isDigit || c = '-' then some (c :: r)
    else none

/-- a text without zeros in front -/
def dropZeros (s : List Char) : Option (List Char) :=
  match s with
  | '0' :: r => afterZeros '0' r
  | c :: _ => if c.isDigit || c = '-' then some s else none
  | [] => none

def dropZeroDecimals (s : List Char) : List Char :=
  match splitAtFirst (· = '.') s with
  | (whole, some decimals) => if !decimals.isEmpty && decimals.all (· = '0') then whole else s
  | (_, none) => s

/-- a text without single underscores between digits -/
def joinDigits (s : List Char) : Option (List Char) :=
  match s with
  | '-' :: r => (dropUnderscores r).map ('-' :: ·)
  | _ => dropUnderscores s

/-- a text made as strict as it can be -/
def tidied (s : List Char) : Option (List Char) := do
  let s ← dropPlus (Text.stripBy Text.isSpacing s)
  let s ← dropZeros s
  joinDigits (dropZeroDecimals s)

def readLenient (s : List Char) : Except LenientFault Int :=
  match readStrict s with
  | .error .unreadable =>
    match (tidied s).map readStrict with
    | some (.ok n) => .ok n
    | _ => .error .unreadable
  | r => r

end Pagewright.Number
