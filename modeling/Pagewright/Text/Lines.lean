/-
Text as a list of lines. Generated code is laid out here: `indent` shifts lines by two columns and `block` puts a body
between braces, so no generator writes a brace or counts columns by hand. A blank line stays blank when it is shifted.
-/

namespace Pagewright.Text

/-- a text, line by line, without the line ends -/
abbrev Lines := List String

/-- the lines of a text: one more than it has line ends -/
def splitLines (s : String) : Lines :=
  (s.toList.splitOn '\n').map String.ofList

/-- lines put together with a line end between neighbours -/
def unlines (ls : Lines) : String :=
  "\n".intercalate ls

/-- two columns to the right; a blank line has no columns -/
def indentLine (l : String) : String :=
  if l.isEmpty then l else "  " ++ l

/-- every line two columns to the right -/
def indent (ls : Lines) : Lines :=
  ls.map indentLine

def openBrace : String := "\x7b"

def closeBrace : String := "\x7d"

def inBraces (s : String) : String :=
  openBrace ++ " " ++ s ++ " " ++ closeBrace

/-- the head, the body between braces and two columns in, and what follows the closing brace -/
def block (head : String) (body : Lines) (tail : String) : Lines :=
  [head ++ " " ++ openBrace] ++ indent body ++ [closeBrace ++ tail]

/-- a body that is never empty: no line at all is shown as one blank line -/
def orBlank (ls : Lines) : Lines :=
  if ls.isEmpty then [""] else ls

/-- lines with a comma after each but the last -/
def commaSeparated : Lines → Lines
  | [] => []
  | [l] => [l]
  | l :: ls => (l ++ ",") :: commaSeparated ls

def repeated (c : Char) (n : Nat) : String :=
  String.ofList (List.replicate n c)

/-- a text at the right end of at least `width` columns -/
def alignRight (width : Nat) (s : String) : String :=
  repeated ' ' (width - s.length) ++ s

end Pagewright.Text
