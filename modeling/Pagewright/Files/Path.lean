/-
Paths of files. A path is a root, which may be empty, and the names that lead from it. Empty names and single dots
between slashes count for nothing; two dots are kept. Names and paths have a greatest length, in bytes.
-/

namespace Pagewright.Files

structure Path where
  root : String
  parts : List String
  deriving DecidableEq, Repr

namespace Path

/-- what a text starts from: one slash, exactly two, or nothing -/
def rootOf : List Char → String
  | '/' :: '/' :: '/' :: _ => "/"
  | '/' :: '/' :: _ => "//"
  | '/' :: _ => "/"
  | _ => ""

def ofText (s : String) : Path :=
  ⟨rootOf s.toList, ((s.toList.splitOn '/').map String.ofList).filter fun p => p ≠ "" && p ≠ "."⟩

/-- the text of a path; the empty one is a dot -/
def text (p : Path) : String :=
  if p.root.isEmpty && p.parts.isEmpty then "." else p.root ++ "/".intercalate p.parts

/-- the greatest length of a name -/
def nameLimit : Nat := 255

/-- the greatest length of a path -/
def textLimit : Nat := 4095

def isTooLong (p : Path) : Bool := textLimit < p.text.utf8ByteSize

/-- whether there is a character in a path that ends every path -/
def hasNul (p : Path) : Bool := p.text.toList.contains (Char.ofNat 0)

def name (p : Path) : String := p.parts.getLast?.getD ""

/-- what contains a path; the shortest paths contain themselves -/
def parent (p : Path) : Path := { p with parts := p.parts.dropLast }

def child (p : Path) (name : String) : Path := { p with parts := p.parts ++ [name] }

/-- a name without its ending: what stands before the last dot, unless that is the first or last character -/
def stemOf (s : List Char) : List Char :=
  let ending := s.reverse.takeWhile (· ≠ '.')
  let before := s.length - ending.length - 1
  if ending.isEmpty || ending.length = s.length || before = 0 then s else s.take before

/-- the last name without its ending -/
def stem (p : Path) : String := String.ofList (stemOf p.name.toList)

end Path

end Pagewright.Files
