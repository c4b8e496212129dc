/-
Binary64 numbers as exact values. A finite number is `± mantissa * 2 ^ exponent` with a mantissa below `2 ^ 53` and an
exponent of at least `-1074`; `ofRatio` rounds a quotient of naturals to the nearest of them, a tie to the even
mantissa. Everything is arithmetic on `Nat` and `Int`: no operation of the machine's floating point is used.
-/

namespace Pagewright.Number

inductive Binary64 where
  | nan
  | infinite (negative : Bool)
  | finite (negative : Bool) (mantissa : Nat) (exponent : Int)
  deriving DecidableEq, Repr, Inhabited

def twoPow (n : Nat) : Nat := Nat.pow 2 n

def tenPow (n : Nat) : Nat := Nat.pow 10 n

/-- `n / d` to the nearest natural, a tie to the even one -/
def roundHalfEven (n d : Nat) : Nat :=
  let q := n / d
  let r := n % d
  if 2 * r < d then q else if d < 2 * r then q + 1 else if q % 2 = 0 then q else q + 1

namespace Binary64

def leastExponent : Int := -1074

def greatestExponent : Int := 971

/-- zero, with a sign -/
def zero (negative : Bool) : Binary64 :=
  .finite negative 0 leastExponent

/-- the fraction `num / den` divided by `2 ^ e`, again as a fraction -/
def scaled (num den : Nat) (e : Int) : Nat × Nat :=
  if e < 0 then (num * twoPow e.natAbs, den) else (num, den * twoPow e.natAbs)

/-- the exponent at which `num / den` has a mantissa of 53 binary digits, but no less than the least one -/
def exponentOf (num den : Nat) : Int :=
  let e := max leastExponent ((Nat.log2 num : Int) - Nat.log2 den - 53)
  let s := scaled num den e
  if twoPow 53 ≤ s.1 / s.2 then e + 1 else e

/-- the nearest number to `num / den`; a tie goes to the even mantissa, and what is too large is infinite -/
def ofRatio (negative : Bool) (num den : Nat) : Binary64 :=
  if num = 0 then zero negative
  else
    let e := exponentOf num den
    let s := scaled num den e
    let m := roundHalfEven s.1 s.2
    let (m, e) := if m = twoPow 53 then (twoPow 52, e + 1) else (m, e)
    if greatestExponent < e then .infinite negative else .finite negative m e

/-- the nearest number to `digits * 10 ^ scale`. A value beyond `10 ^ 400` or below `10 ^ (-400)` is settled by its
size alone. -/
def ofDecimal (negative : Bool) (digits : Nat) (scale : Int) : Binary64 :=
  let places : Int := (Nat.toDigits 10 digits).length + scale
  if digits = 0 then zero negative
  else if 400 < places then .infinite negative
  else if places < -400 then zero negative
  else if scale < 0 then ofRatio negative digits (tenPow scale.natAbs)
  else ofRatio negative (digits * tenPow scale.natAbs) 1

def isNegative : Binary64 → Bool
  | .nan => false
  | .infinite s => s
  | .finite s _ _ => s

/-- the size of a finite number as a fraction -/
def ratio (mantissa : Nat) (exponent : Int) : Nat × Nat :=
  if exponent < 0 then (mantissa, twoPow exponent.natAbs) else (mantissa * twoPow exponent.natAbs, 1)

/-- the integer a number is, if it is one -/
def toInt? : Binary64 → Option Int
  | .finite s m e =>
    let r := ratio m e
    if r.1 % r.2 = 0 then some (if s then -((r.1 / r.2 : Nat) : Int) else ((r.1 / r.2 : Nat) : Int)) else none
  | _ => none

/-- neither infinite nor undefined -/
def isFinite : Binary64 → Bool
  | .finite _ _ _ => true
  | _ => false

end Binary64

end Pagewright.Number
