/-
The text of a binary64 number: the fewest decimal digits that read back as the number, and of those the nearest to it.
The digits are found by exact arithmetic on the interval of reals that round to the number; for one digit, then two,
and so on to seventeen, the two neighbours of the number on that decimal grid are tried.

A number from `10 ^ (-4)` up to `10 ^ 16` is written with a point and at least one decimal, any other with an exponent of at
least two digits. The words for what is not finite are the writer's choice (`Words`).
-/
import Pagewright.Number.Binary64

namespace Pagewright.Number

/-- how many decimal digits a natural has -/
def digitCount (n : Nat) : Nat :=
  (Nat.toDigits 10 n).length

/-- the greatest `k` with `10 ^ k ≤ num / den`, for a positive fraction -/
def decimalExponent (num den : Nat) : Int :=
  if den ≤ num then (digitCount (num / den) : Int) - 1
  else -(digitCount ((den + num - 1) / num - 1) : Int)

/-- the reals that round to a number, scaled so that every bound is a natural; the ends belong to it when the mantissa
is even -/
structure Interval where
  low : Nat
  value : Nat
  high : Nat
  unit : Nat
  closed : Bool

/-- the rounding interval of `mantissa * 2 ^ exponent`, measured in units of `10 ^ k` -/
def Interval.around (mantissa : Nat) (exponent : Int) (k : Int) : Interval :=
  let e := exponent - 2
  let up := (if 0 ≤ e then twoPow e.natAbs else 1) * (if k < 0 then tenPow k.natAbs else 1)
  let below := if mantissa = twoPow 52 && Binary64.leastExponent < exponent then 1 else 2
  { low := (4 * mantissa - below) * up
    value := 4 * mantissa * up
    high := (4 * mantissa + 2) * up
    unit := (if e < 0 then twoPow e.natAbs else 1) * (if 0 ≤ k then tenPow k.natAbs else 1)
    closed := mantissa % 2 = 0 }

/-- does the grid point `d` round to the number -/
def Interval.contains (i : Interval) (d : Nat) : Bool :=
  if i.closed then i.low ≤ d * i.unit && d * i.unit ≤ i.high else i.low < d * i.unit && d * i.unit < i.high

/-- how far the grid point `d` is from the number -/
def Interval.distance (i : Interval) (d : Nat) : Nat :=
  (i.value - d * i.unit) + (d * i.unit - i.value)

/-- the better of the two grid points next to the number, if one of them rounds to it -/
def Interval.nearest? (i : Interval) : Option Nat :=
  let d := i.value / i.unit
  match i.contains d, i.contains (d + 1) with
  | true, true =>
    if i.distance d < i.distance (d + 1) then some d
    else if i.distance (d + 1) < i.distance d then some (d + 1)
    else if d % 2 = 0 then some d else some (d + 1)
  | true, false => some d
  | false, true => some (d + 1)
  | false, false => none

/-- try grids of `digits`, `digits + 1`, … places, `tries` of them -/
def shortestFrom (mantissa : Nat) (exponent top : Int) (digits : Nat) : Nat → Nat × Int
  | 0 => (mantissa, 0)
  | tries + 1 =>
    let k := top - (digits : Int) + 1
    match (Interval.around mantissa exponent k).nearest? with
    | some d => (d, k)
    | none => shortestFrom mantissa exponent top (digits + 1) tries

/-- the shortest decimal `digits * 10 ^ scale` of a positive finite number -/
def shortest (mantissa : Nat) (exponent : Int) : Nat × Int :=
  let r := Binary64.ratio mantissa exponent
  shortestFrom mantissa exponent (decimalExponent r.1 r.2) 1 17

def dropTrailingZeros (ds : List Char) : List Char :=
  (ds.reverse.dropWhile (· == '0')).reverse

/-- a numeral with a point and at least one decimal; `point` digits stand before the point -/
def positional (ds : List Char) (point : Int) : List Char :=
  if point ≤ 0 then ['0', '.'] ++ List.replicate point.natAbs '0' ++ ds
  else if ds.length ≤ point.natAbs then ds ++ List.replicate (point.natAbs - ds.length) '0' ++ ['.', '0']
  else ds.take point.natAbs ++ ['.'] ++ ds.drop point.natAbs

/-- a numeral with one digit before the point and an exponent with its sign -/
def scientific (ds : List Char) (exponent : Int) : List Char :=
  let e := Nat.toDigits 10 exponent.natAbs
  ds.take 1 ++ (if ds.length ≤ 1 then [] else ['.'] ++ ds.drop 1) ++ ['e', if exponent < 0 then '-' else '+'] ++
    List.replicate (2 - e.length) '0' ++ e

/-- the exponents that are written with a point: from `-4` up to `15` -/
def isPositional (exponent : Int) : Bool :=
  -4 ≤ exponent && exponent < 16

/-- the words for what is not finite -/
structure Words where
  nan : String
  infinity : String

def magnitudeText (mantissa : Nat) (exponent : Int) : String :=
  if mantissa = 0 then "0.0"
  else
    let r := shortest mantissa exponent
    let all := Nat.toDigits 10 r.1
    let ds := dropTrailingZeros all
    let point : Int := all.length + r.2
    String.ofList (if isPositional (point - 1) then positional ds point else scientific ds (point - 1))

def Binary64.text (w : Words) : Binary64 → String
  | .nan => w.nan
  | .infinite s => (if s then "-" else "") ++ w.infinity
  | .finite s m e => (if s then "-" else "") ++ magnitudeText m e

/-- short lower-case words, for text shown to a reader -/
def plainWords : Words := { nan := "nan", infinity := "inf" }

/-- the words a script understands -/
def scriptWords : Words := { nan := "NaN", infinity := "Infinity" }

end Pagewright.Number
