/-
Texts that may hold halves. The code points from `U+D800` to `U+DFFF` are no characters: where text is kept in units of 16
bits, a high one and a low one together stand for one character, and one without the other for nothing. Data from outside
can hold such halves all the same. A wide text is a run of characters and, after each half in it, another run.

Programs, their trees and options are plain texts. Halves are kept in data, in what is stored, and in log records.
-/

namespace Pagewright.Text

/-- a half, by its code point -/
structure Half where
  code : Nat
  lower : 0xD800 ≤ code
  upper : code ≤ 0xDFFF
  deriving DecidableEq, Repr

namespace Half

def ofCode? (n : Nat) : Option Half := if h : 0xD800 ≤ n ∧ n ≤ 0xDFFF then some ⟨n, h.1, h.2⟩ else none

/-- whether a half comes first in a pair; if not, it comes second -/
def isHigh (h : Half) : Bool := h.code < 0xDC00

/-- the character that a high and a low half stand for -/
def join (high low : Half) : Char := Char.ofNat (0x10000 + (high.code - 0xD800) * 0x400 + (low.code - 0xDC00))

end Half

inductive Point where
  | char (c : Char)
  | half (h : Half)
  deriving DecidableEq, Repr

def Point.ofCode (n : Nat) : Point :=
  match Half.ofCode? n with
  | some h => .half h
  | none => .char (Char.ofNat n)

/-- points in which the halves of a pair, where they are neighbours, have become its character -/
def joinPairs : List Point → List Point
  | [] => []
  | .half h :: .half l :: ps =>
    if h.isHigh && !l.isHigh then .char (h.join l) :: joinPairs ps else .half h :: joinPairs (.half l :: ps)
  | p :: ps => p :: joinPairs ps

/-- a text with halves: the characters before the first one, and each half with the characters after it -/
structure Wide where
  start : String
  more : List (Half × String)
  deriving DecidableEq, Repr

namespace Wide

@[coe] def ofString (s : String) : Wide := ⟨s, []⟩

instance : Coe String Wide := ⟨ofString⟩

instance : Inhabited Wide := ⟨""⟩

/-- a text as a plain one, if it holds no half -/
def toString? (w : Wide) : Option String := if w.more.isEmpty then some w.start else none

def hasHalf (w : Wide) : Bool := !w.more.isEmpty

def length (w : Wide) : Nat := w.start.length + w.more.foldr (fun m n => m.2.length + 1 + n) 0

def pointsOfMore (more : List (Half × String)) : List Point :=
  more.flatMap fun m => .half m.1 :: m.2.toList.map .char

def points (w : Wide) : List Point := w.start.toList.map .char ++ pointsOfMore w.more

/-- the text of points, which are given last first, with a run of characters and what follows it behind them -/
def ofReversed : List Point → List Char → List (Half × String) → Wide
  | [], run, more => ⟨String.ofList run, more⟩
  | .char c :: ps, run, more => ofReversed ps (c :: run) more
  | .half h :: ps, run, more => ofReversed ps [] ((h, String.ofList run) :: more)

def ofPoints (ps : List Point) : Wide := ofReversed ps.reverse [] []

/-- a text in which neighbouring halves of a pair have become its character -/
def joined (w : Wide) : Wide := ofPoints (joinPairs w.points)

instance : Append Wide := ⟨fun a b => ofPoints (a.points ++ b.points)⟩

end Wide

end Pagewright.Text
