/-
Integers of 64 and of 32 bits with a sign.
-/

namespace Pagewright.Number

/-- the first integer that is too large: two to the power of 63 -/
def wordBound : Int := 9223372036854775808

/-- whether an integer has room in 64 bits with a sign -/
def fitsWord (n : Int) : Bool := -wordBound ≤ n && n < wordBound

/-- whether an integer has room in 32 bits with a sign -/
def fitsHalfWord (n : Int) : Bool := -2147483648 ≤ n && n < 2147483648

end Pagewright.Number
