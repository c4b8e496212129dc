/-
Places in a source text, and how a message shows them: the file, line and column, and on request an excerpt of the
lines around the place with a caret under it. Lines and columns count from one.
-/
import Pagewright.Json.Writer

namespace Pagewright

/-- a place in a source; the file is known by the text its path is shown as -/
structure Location where
  line : Int
  column : Int
  file : Option String
  deriving DecidableEq, Repr

namespace Location

/-- a place as a message shows it -/
def text (l : Location) : String :=
  match l.file with
  | some f => f ++ ":" ++ Json.intText l.line ++ ":" ++ Json.intText l.column
  | none => "line " ++ Json.intText l.line ++ ", column " ++ Json.intText l.column

/-- the number of an excerpt's first line: two above the place, but no less than one -/
def firstShown (l : Location) : Int := max 1 (l.line - 2)

/-- the number before a line of an excerpt -/
def gutter (n : Int) : String :=
  Text.alignRight 4 (Json.intText n) ++ " | "

/-- the line with the caret: under the column, measured from the end of the number before the line -/
def caretLine (l : Location) : String :=
  Text.repeated ' ' (((gutter l.line).length : Int) + l.column - 1).toNat ++ "^"

/-- lines with their numbers, and the caret line after the line of the place -/
def numbered (l : Location) (n : Int) : Text.Lines → Text.Lines
  | [] => []
  | s :: rest =>
    (gutter n ++ s) :: (if n = l.line then caretLine l :: numbered l (n + 1) rest else numbered l (n + 1) rest)

/-- a place with an excerpt below it; an empty excerpt is not shown -/
def withExcerpt (l : Location) (excerpt : String) : String :=
  if excerpt.isEmpty then l.text
  else l.text ++ "\n" ++ Text.unlines (l.numbered l.firstShown (Text.splitLines excerpt))

end Location

/-- the items up to an end that counts from the back when it is negative -/
def takeUpTo {α : Type} (xs : List α) (stop : Int) : List α :=
  if stop < 0 then xs.take ((xs.length : Int) + stop).toNat else xs.take stop.toNat

/-- the lines of a text at most `radius` away from a line -/
def excerptAround (source : String) (line radius : Int) : String :=
  let ls := Text.splitLines source
  let first := max 1 (line - radius)
  let last := min (ls.length : Int) (line + radius)
  Text.unlines ((takeUpTo ls last).drop (first - 1).toNat)

/-- how far an excerpt reaches to both sides -/
def excerptRadius : Int := 2

end Pagewright
