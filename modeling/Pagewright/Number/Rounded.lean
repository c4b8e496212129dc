/-
Fractions written with a chosen number of digits, in three ways: with a fixed number of places after the point, with an
exponent, or with whichever of the two is shorter. Rounding is to the nearest, of two equally near to the even one, on
the exact fraction.
-/
import Pagewright.Number.Shortest
import Pagewright.Text.Lines

namespace Pagewright.Number

/-- a numeral in decimal digits, with zeros in front up to a length -/
def paddedDigits (length n : Nat) : List Char :=
  let ds := Nat.toDigits 10 n
  List.replicate (length - ds.length) '0' ++ ds

/-- digits before and after the point; without digits after it there is no point, unless it is kept -/
def withPoint (keep : Bool) (before after : List Char) : List Char :=
  if after.isEmpty && !keep then before else before ++ ['.'] ++ after

/-- `num / den` with a fixed number of places -/
def fixedText (keep : Bool) (places num den : Nat) : List Char :=
  let ds := paddedDigits (places + 1) (roundHalfEven (num * tenPow places) den)
  withPoint keep (ds.take (ds.length - places)) (ds.drop (ds.length - places))

/-- the first `count` digits of a fraction, rounded, and the exponent of the first of them -/
def leadingDigits (count num den : Nat) : List Char × Int :=
  if num = 0 then (List.replicate count '0', 0)
  else
    let top := decimalExponent num den
    let shift : Int := count - 1 - top
    let d :=
      if shift < 0 then roundHalfEven num (den * tenPow shift.natAbs)
      else roundHalfEven (num * tenPow shift.natAbs) den
    if d = tenPow count then (Nat.toDigits 10 (tenPow (count - 1)), top + 1) else (paddedDigits count d, top)

/-- an exponent with its sign and at least two digits -/
def exponentText (e : Int) : List Char := ['e', if e < 0 then '-' else '+'] ++ paddedDigits 2 e.natAbs

/-- `num / den` with one digit before the point, a fixed number of places and an exponent -/
def exponentialText (keep : Bool) (places num den : Nat) : List Char :=
  let (ds, e) := leadingDigits (places + 1) num den
  withPoint keep (ds.take 1) (ds.drop 1) ++ exponentText e

/-- the digits after the point that are to be shown: zeros at the end are dropped, unless all are kept -/
def shownPlaces (keep : Bool) (ds : List Char) : List Char := if keep then ds else dropTrailingZeros ds

/-- `num / den` with `count` digits, at least one: with a point alone if its exponent is from `-4` to below `count`, else
with an exponent -/
def generalText (keep : Bool) (count num den : Nat) : List Char :=
  let count := max count 1
  let (ds, e) := leadingDigits count num den
  if e < -4 || (count : Int) ≤ e then
    withPoint keep (ds.take 1) (shownPlaces keep (ds.drop 1)) ++ exponentText e
  else if e < 0 then withPoint keep ['0'] (shownPlaces keep (List.replicate (e.natAbs - 1) '0' ++ ds))
  else withPoint keep (ds.take (e.natAbs + 1)) (shownPlaces keep (ds.drop (e.natAbs + 1)))

end Pagewright.Number
