/-
Values as script literals. The text is JSON, in which a slash after `<` is written with a backslash before it, so that
no literal can close the element a script stands in.
-/
import Pagewright.Json.Writer

namespace Pagewright

/-- a backslash between `<` and a slash that follows it -/
def guardClosing : List Char → List Char
  | [] => []
  | '<' :: '/' :: r => '<' :: '\\' :: '/' :: guardClosing r
  | c :: r => c :: guardClosing r

def scriptLiteral : Json.Value → String
  | .null => "undefined"
  | v => String.ofList (guardClosing v.compact.toList)

def scriptText (s : String) : String := scriptLiteral (.text s)

end Pagewright
