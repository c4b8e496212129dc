/-
Lines of limited width, counted in cells. A line is broken before a word that no longer fits; the blanks before the word
stay at the end of the line above, unless they are themselves beyond the width. A word that fits on no line starts on a
new one and is cut wherever a line is full.
-/
import Pagewright.Text.Blank
import Pagewright.Text.Cells
import Pagewright.Text.Lines

namespace Pagewright.Console

def width : Nat := 80

/-! ## Tabs -/

/-- the columns from one tab stop to the next -/
def tabStop : Nat := 8

/-- parts of a line that stood before and after tabs, with each tab filled up with spaces to the next tab stop -/
def joinTabs (column : Nat) : List (List Char) → List Char
  | [] => []
  | [s] => s
  | s :: rest =>
    let ended := s ++ [' ']
    let reached := column + Text.cells ended
    let gap := (tabStop - reached % tabStop) % tabStop
    ended ++ List.replicate gap ' ' ++ joinTabs (reached + gap) rest

/-- a line with its tabs filled up with spaces -/
def expandTabs (line : List Char) : List Char := joinTabs 0 (line.splitOn '\t')

/-! ## Filling -/

/-- the words of a line, each with the blanks after it; the first also has the blanks before it -/
def wordsOf (line : List Char) : List (List Char) :=
  match line.splitBy fun a b => !Text.isBlank a || Text.isBlank b with
  | w :: ws =>
    if w.all Text.isBlank then
      match ws with
      | v :: vs => (w ++ v) :: vs
      | [] => []
    else w :: ws
  | [] => []

/-- the cells of a word without the blanks after it -/
def bareCells (w : List Char) : Nat := Text.cells (w.reverse.dropWhile Text.isBlank).reverse

/-- lines that are full, the line being filled, and the cells taken on it -/
structure Filling where
  full : List (List Char)
  line : List Char
  taken : Nat

namespace Filling

def empty : Filling := ⟨[], [], 0⟩

/-- begin a new line, unless nothing stands on this one -/
def newLine (f : Filling) : Filling := if f.line.isEmpty then f else ⟨f.full ++ [f.line], [], 0⟩

/-- put a cluster on the line, or on a new one if the line is full -/
def stepCluster (f : Filling) (g : Text.Cluster) : Filling :=
  if width < f.taken + g.width then ⟨f.full ++ [f.line], g.text, g.width⟩
  else { f with line := f.line ++ g.text, taken := f.taken + g.width }

/-- put a word where it fits -/
def step (f : Filling) (w : List Char) : Filling :=
  if f.taken + bareCells w ≤ width then { f with line := f.line ++ w, taken := f.taken + Text.cells w }
  else if width < bareCells w then
    let cut := (Text.clusters w).foldl stepCluster f.newLine
    { cut with taken := Text.cells cut.line }
  else { f.newLine with line := w, taken := Text.cells w }

def lines (f : Filling) : List (List Char) := f.full ++ [f.line]

end Filling

/-! ## Trimming -/

/-- a line without blanks at its end that are more characters than the width -/
def trimEnd (line : List Char) : List Char :=
  let blanks := (line.reverse.takeWhile Text.isBlank).length
  line.take (line.length - min blanks (line.length - width))

/-- the clusters that have room; one that is cut in two leaves a space -/
def crop (room : Nat) : List Text.Cluster → List Char
  | [] => []
  | g :: gs =>
    if room = 0 then []
    else if g.width ≤ room then g.text ++ crop (room - g.width) gs
    else [' ']

def fitted (line : List Char) : List Char :=
  let s := trimEnd line
  if Text.cells s ≤ width then s else crop width (Text.clusters s)

/-- a line, broken where it is too long -/
def wrapLine (line : List Char) : List (List Char) :=
  let line := expandTabs line
  match wordsOf line with
  | [] => [fitted line]
  | ws => (ws.foldl Filling.step .empty).lines.map fitted

/-- a text with line ends, each line broken where it is too long, and a line end after all -/
def wrap (s : List Char) : String :=
  String.join (((s.splitOn '\n').flatMap wrapLine).map fun l => String.ofList l ++ "\n")

end Pagewright.Console
