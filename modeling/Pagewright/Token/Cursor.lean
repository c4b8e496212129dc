/-
A cursor in a source text: the characters passed, the characters ahead, and the line and column of the first one ahead.
`advance` passes one character. `lineOf` and `columnOf` say what line and column a passed text leads to.
-/

namespace Pagewright

/-- a place between the characters passed, last first, and the characters ahead -/
structure Cursor where
  passed : List Char
  ahead : List Char
  line : Nat
  column : Nat
  deriving DecidableEq, Repr

namespace Cursor

def start (s : List Char) : Cursor := ⟨[], s, 1, 1⟩

/-- how many characters are passed -/
def position (c : Cursor) : Nat := c.passed.length

def text (c : Cursor) : List Char := c.passed.reverse ++ c.ahead

/-- the character at the cursor, if the text goes on -/
def current (c : Cursor) : Option Char := c.ahead.head?

/-- pass one character; at the end of the text nothing happens -/
def advance (c : Cursor) : Cursor :=
  match c.ahead with
  | [] => c
  | ch :: rest =>
    if ch = '\n' then ⟨ch :: c.passed, rest, c.line + 1, 1⟩ else ⟨ch :: c.passed, rest, c.line, c.column + 1⟩

def advanceBy (c : Cursor) : Nat → Cursor
  | 0 => c
  | n + 1 => c.advance.advanceBy n

/-- the character `offset` away from the cursor: `some none` beyond the end. A place before the start counts from the
end of the text, and is `none` when it is further off than the text is long. -/
def peek (c : Cursor) (offset : Int) : Option (Option Char) :=
  let i := (c.position : Int) + offset
  let s := c.text
  if (s.length : Int) ≤ i then some none
  else if 0 ≤ i then some s[i.toNat]?
  else if -(s.length : Int) ≤ i then some s[(s.length + i).toNat]?
  else none

/-- the line reached after a text -/
def lineOf (s : List Char) : Nat := 1 + s.count '\n'

/-- the column reached after a text: one more than the characters since its last line end -/
def columnOf (s : List Char) : Nat := 1 + (s.reverse.takeWhile (· ≠ '\n')).length

theorem ahead_advance (c : Cursor) : c.advance.ahead = c.ahead.drop 1 := by
  unfold advance
  split
  · simp [*]
  · split <;> simp [*]

theorem ahead_advanceBy (c : Cursor) (n : Nat) : (c.advanceBy n).ahead = c.ahead.drop n := by
  induction n generalizing c with
  | zero => simp [advanceBy]
  | succ n ih => simp [advanceBy, ih, ahead_advance]

end Cursor

end Pagewright
