/-
Quoted text, as messages show it. A text stands between single quotes, or between double quotes when it holds a single
quote and no double one. The quote in use, the backslash, the characters that are not printable and halves are escaped.
-/
import Pagewright.Text.Printable
import Pagewright.Text.Wide

namespace Pagewright.Text

/-- a lower-case hexadecimal numeral of at least `width` digits -/
def hexadecimal (width n : Nat) : List Char :=
  let ds := Nat.toDigits 16 n
  List.replicate (width - ds.length) '0' ++ ds

/-- a code point in the shortest of the three forms -/
def escapedCodePoint (n : Nat) : List Char :=
  if n < 0x100 then ['\\', 'x'] ++ hexadecimal 2 n
  else if n < 0x10000 then ['\\', 'u'] ++ hexadecimal 4 n
  else ['\\', 'U'] ++ hexadecimal 8 n

def quotedChar (quote c : Char) : List Char :=
  if c = quote || c = '\\' then ['\\', c]
  else if c = '\n' then ['\\', 'n']
  else if c = '\r' then ['\\', 'r']
  else if c = '\t' then ['\\', 't']
  else if isPrintable c then [c]
  else escapedCodePoint c.toNat

/-- the quote that needs the fewest escapes, single by preference -/
def preferredQuote (s : List Char) : Char :=
  if s.contains '\'' && !s.contains '"' then '"' else '\''

def quotedPoint (quote : Char) : Point → List Char
  | .char c => quotedChar quote c
  | .half h => escapedCodePoint h.code

def quoted (s : Wide) : String :=
  let q := preferredQuote (s.points.filterMap fun
    | .char c => some c
    | .half _ => none)
  String.ofList ([q] ++ s.points.flatMap (quotedPoint q) ++ [q])

/-- a text as it is, but for its halves, which are escaped -/
def escapedHalves (s : Wide) : String :=
  String.ofList (s.points.flatMap fun
    | .char c => [c]
    | .half h => escapedCodePoint h.code)

end Pagewright.Text
