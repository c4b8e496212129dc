/-
Decimal digits of all scripts. Unicode keeps the ten digits of a script together and in order, so a script is known by
where its zero stands.
-/
import Pagewright.Text.Blank

namespace Pagewright.Text

def zeros : List Nat :=
  [0x30, 0x660, 0x6f0, 0x7c0, 0x966, 0x9e6, 0xa66, 0xae6, 0xb66, 0xbe6, 0xc66, 0xce6, 0xd66, 0xde6, 0xe50, 0xed0, 0xf20,
    0x1040, 0x1090, 0x17e0, 0x1810, 0x1946, 0x19d0, 0x1a80, 0x1a90, 0x1b50, 0x1bb0, 0x1c40, 0x1c50, 0xa620, 0xa8d0,
    0xa900, 0xa9d0, 0xa9f0, 0xaa50, 0xabf0, 0xff10, 0x104a0, 0x10d30, 0x11066, 0x110f0, 0x11136, 0x111d0, 0x112f0,
    0x11450, 0x114d0, 0x11650, 0x116c0, 0x11730, 0x118e0, 0x11950, 0x11c50, 0x11d50, 0x11da0, 0x16a60, 0x16ac0, 0x16b50,
    0x1d7ce, 0x1d7d8, 0x1d7e2, 0x1d7ec, 0x1d7f6, 0x1e140, 0x1e2f0, 0x1e950, 0x1fbf0]

/-- the value of a digit of any script -/
def decimal? (c : Char) : Option Nat :=
  (zeros.find? fun z => z ≤ c.toNat && c.toNat < z + 10).map fun z => c.toNat - z

/-- a character of a numeral in ASCII: a digit of another script as the digit, a blank beyond ASCII as a space -/
def numeralChar (c : Char) : Char :=
  if c.toNat < 0x7F then c
  else if isBlank c then ' '
  else
    match decimal? c with
    | some d => Char.ofNat ('0'.toNat + d)
    | none => c

/-- a blank of ASCII around a numeral; the four separator controls are none -/
def isNumeralBlank (c : Char) : Bool := c = ' ' || (9 ≤ c.toNat && c.toNat ≤ 13)

/-- a numeral in ASCII, without the blanks around it -/
def plainNumeral (s : List Char) : List Char := stripBy isNumeralBlank (s.map numeralChar)

/-- ASCII is left as it is -/
theorem numeralChar_of_ascii (c : Char) (h : c.toNat < 0x7F) : numeralChar c = c := by
  simp [numeralChar, h]

end Pagewright.Text
