/-
Pieces of HTML. Names of elements and attributes and declared names are written as they are; `escape` is for free text.
-/
import Pagewright.Text.Lines

namespace Pagewright.Html

/-- the entity of a character that has a meaning of its own in HTML -/
def escapeChar (c : Char) : List Char :=
  if c = '&' then "&amp;".toList
  else if c = '<' then "&lt;".toList
  else if c = '>' then "&gt;".toList
  else if c = '"' then "&quot;".toList
  else if c = '\'' then "&#x27;".toList
  else [c]

/-- free text as the content of an element or the value of an attribute -/
def escape (s : String) : String := String.ofList (s.toList.flatMap escapeChar)

/-- an attribute: a name, and a value unless the name says it all -/
structure Attribute where
  name : String
  value : Option String

def attr (name value : String) : Attribute := ⟨name, some value⟩

/-- an attribute without a value -/
def flag (name : String) : Attribute := ⟨name, none⟩

/-- an attribute in a tag, after a space -/
def Attribute.text (a : Attribute) : String :=
  match a.value with
  | some v => " " ++ a.name ++ "=\"" ++ v ++ "\""
  | none => " " ++ a.name

def opening (tag : String) (attributes : List Attribute) : String :=
  "<" ++ tag ++ String.join (attributes.map Attribute.text) ++ ">"

def closing (tag : String) : String := "</" ++ tag ++ ">"

/-- an element on one line -/
def inline (tag : String) (attributes : List Attribute) (content : String) : String :=
  opening tag attributes ++ content ++ closing tag

/-- an element over several lines, with its content as it is -/
def around (tag : String) (attributes : List Attribute) (content : Text.Lines) : Text.Lines :=
  [opening tag attributes] ++ content ++ [closing tag]

/-- an element over several lines, with its content two columns in -/
def enclosing (tag : String) (attributes : List Attribute) (content : Text.Lines) : Text.Lines :=
  around tag attributes (Text.indent content)

end Pagewright.Html
