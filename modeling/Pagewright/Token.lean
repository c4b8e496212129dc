/-
Tokens of the application language: names, texts and numbers, the ten keywords, eight marks and the end of the source.
Four of the keywords name field types; they may stand wherever a name is expected.
-/
import Pagewright.Location
import Pagewright.Text.Quoted

namespace Pagewright

inductive Kind where
  | identifier | text | number
  | model | field | form | view | list | page
  | textType | numberType | booleanType | dateType
  | leftBrace | rightBrace | leftParen | rightParen | colon | semicolon | comma | equals
  | finish
  deriving DecidableEq, Repr, Inhabited

namespace Kind

def keywords : List (String × Kind) :=
  [("model", .model), ("field", .field), ("form", .form), ("view", .view), ("list", .list), ("page", .page),
    ("text", .textType), ("number", .numberType), ("boolean", .booleanType), ("date", .dateType)]

def marks : List (Char × Kind) :=
  [('\x7b', .leftBrace), ('\x7d', .rightBrace), ('(', .leftParen), (')', .rightParen), (':', .colon),
    (';', .semicolon), (',', .comma), ('=', .equals)]

/-- the kind of a word: a keyword if it is one, else an identifier -/
def ofWord (w : String) : Kind :=
  (keywords.lookup w).getD .identifier

/-- how a kind is spelled: a keyword or a mark as it is written, any other by the name of its class -/
def spelling : Kind → String
  | .identifier => "IDENTIFIER"
  | .text => "STRING"
  | .number => "NUMBER"
  | .model => "model"
  | .field => "field"
  | .form => "form"
  | .view => "view"
  | .list => "list"
  | .page => "page"
  | .textType => "text"
  | .numberType => "number"
  | .booleanType => "boolean"
  | .dateType => "date"
  | .leftBrace => Text.openBrace
  | .rightBrace => Text.closeBrace
  | .leftParen => "("
  | .rightParen => ")"
  | .colon => ":"
  | .semicolon => ";"
  | .comma => ","
  | .equals => "="
  | .finish => "EOF"

/-- a kind that is a class of tokens rather than one spelling -/
def isClass : Kind → Bool
  | .identifier | .text | .number | .finish => true
  | _ => false

/-- a kind as an error message names it: single spellings are quoted -/
def describe (k : Kind) : String :=
  if k.isClass then k.spelling else "'" ++ k.spelling ++ "'"

/-- a kind that may stand for a name -/
def isName : Kind → Bool
  | .identifier | .textType | .numberType | .booleanType | .dateType => true
  | _ => false

end Kind

/-- a token: its kind, its text (of a text literal, what it stands for) and where it starts -/
structure Token where
  kind : Kind
  value : String
  line : Nat
  column : Nat
  deriving DecidableEq, Repr, Inhabited

/-- a token as a listing shows it -/
def Token.display (t : Token) : String :=
  "Token(" ++ t.kind.spelling ++ ", " ++ Text.quoted t.value ++ ", " ++ toString t.line ++ ":" ++
    toString t.column ++ ")"

end Pagewright
