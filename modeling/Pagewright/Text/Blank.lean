/-
Blank characters: the ones a reader of plain text sees as space. The class is the Unicode one together with the four
separator controls `U+001C` to `U+001F`; a zero-width space and a byte-order mark are not in it.
-/

namespace Pagewright.Text

/-- the blank characters, by code point -/
def isBlank (c : Char) : Bool :=
  let n := c.toNat
  (9 ≤ n && n ≤ 13) || (28 ≤ n && n ≤ 32) || n == 0x85 || n == 0xA0 || n == 0x1680 ||
    (0x2000 ≤ n && n ≤ 0x200A) || n == 0x2028 || n == 0x2029 || n == 0x202F || n == 0x205F || n == 0x3000

/-- the blank characters without the four separator controls -/
def isSpacing (c : Char) : Bool :=
  isBlank c && !(28 ≤ c.toNat && c.toNat ≤ 31)

/-- drop the characters of a class from both ends -/
def stripBy (p : Char → Bool) (s : List Char) : List Char :=
  ((s.dropWhile p).reverse.dropWhile p).reverse

def strip (s : List Char) : List Char :=
  stripBy isBlank s

def allBlank (s : String) : Bool :=
  s.toList.all isBlank

end Pagewright.Text
