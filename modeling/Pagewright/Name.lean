/-
Declared names. A name is a letter or an underscore followed by letters, digits and underscores, all ASCII. Names are
copied as they are into generated markup and script, so a tree is only built from names in this class. The check also
lets a single line end at the end of a name pass (`isAccepted`).
-/
import Pagewright.Text.Quoted

namespace Pagewright.Name

def isStart (c : Char) : Bool := c.isAlpha || c = '_'

def isPart (c : Char) : Bool := c.isAlphanum || c = '_'

/-- a name, and nothing else -/
def isName (s : List Char) : Bool :=
  match s with
  | [] => false
  | c :: r => isStart c && r.all isPart

/-- a name, with at most one line end after it -/
def isAccepted (s : List Char) : Bool :=
  isName s || (s.getLast? == some '\n' && isName s.dropLast)

/-- what is said of a text that is no name -/
def refusal (s : String) : String :=
  Text.quoted s ++ " is not a valid identifier"

/-- a text that may serve as a name, or why not -/
def check (s : String) : Except String String :=
  if isAccepted s.toList then .ok s else .error (refusal s)

theorem isAccepted_of_isName (s : List Char) (h : isName s = true) : isAccepted s = true := by
  simp [isAccepted, h]

end Pagewright.Name
