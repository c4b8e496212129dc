/-
What is wrong with a value handed in from outside: a problem and the path to the part of the value that has it.
-/
import Pagewright.Text.Wide

namespace Pagewright.Check

/-- a step of a path into a value -/
inductive Key where
  | name (s : Text.Wide)
  | index (n : Nat)
  deriving DecidableEq, Repr

/-- the records a value can be read as -/
inductive Shape where
  | field | model | form | list | view | page | app | options | appCreate | appUpdate | dataCreate | dataUpdate
  deriving DecidableEq, Repr

/-- what a message calls a record -/
def Shape.title : Shape → String
  | .field => "FieldSpec"
  | .model => "ModelSpec"
  | .form => "FormSpec"
  | .list => "ListSpec"
  | .view => "ViewSpec"
  | .page => "PageSpec"
  | .app => "AppSpec"
  | .options => "CompileOptions"
  | .appCreate => "AppCreate"
  | .appUpdate => "AppUpdate"
  | .dataCreate => "DataCreate"
  | .dataUpdate => "DataUpdate"

/-- what can be wrong with a part of a value -/
inductive Problem where
  | missing
  | notText
  | notUnicode
  | textTooShort
  | notBool
  | unreadableBool
  | notInt
  | unreadableInt
  | hugeInt
  | fractionalInt
  | notFinite
  | notFloat
  | notObject
  | notArray
  | notRecord (s : Shape)
  | notBody
  | notJson
  | unknownKey
  | refused (reason : String)
  deriving DecidableEq, Repr

namespace Problem

def code : Problem → String
  | .missing => "missing"
  | .notText => "string_type"
  | .notUnicode => "string_unicode"
  | .textTooShort => "string_too_short"
  | .notBool => "bool_type"
  | .unreadableBool => "bool_parsing"
  | .notInt => "int_type"
  | .unreadableInt => "int_parsing"
  | .hugeInt => "int_parsing_size"
  | .fractionalInt => "int_from_float"
  | .notFinite => "finite_number"
  | .notFloat => "float_type"
  | .notObject => "dict_type"
  | .notArray => "tuple_type"
  | .notRecord _ => "model_type"
  | .notBody => "model_attributes_type"
  | .notJson => "json_invalid"
  | .unknownKey => "extra_forbidden"
  | .refused _ => "value_error"

def message : Problem → String
  | .missing => "Field required"
  | .notText => "Input should be a valid string"
  | .notUnicode => "Input should be a valid string, unable to parse raw data as a unicode string"
  | .textTooShort => "String should have at least 1 character"
  | .notBool => "Input should be a valid boolean"
  | .unreadableBool => "Input should be a valid boolean, unable to interpret input"
  | .notInt => "Input should be a valid integer"
  | .unreadableInt => "Input should be a valid integer, unable to parse string as an integer"
  | .hugeInt => "Unable to parse input string as an integer, exceeded maximum size"
  | .fractionalInt => "Input should be a valid integer, got a number with a fractional part"
  | .notFinite => "Input should be a finite number"
  | .notFloat => "Input should be a valid number"
  | .notObject => "Input should be a valid dictionary"
  | .notArray => "Input should be a valid tuple"
  | .notRecord s => "Input should be a valid dictionary or instance of " ++ s.title
  | .notBody => "Input should be a valid dictionary or object to extract fields from"
  | .notJson => "JSON decode error"
  | .unknownKey => "Extra inputs are not permitted"
  | .refused reason => "Value error, " ++ reason

end Problem

/-- a problem, and where in the value it is -/
structure Issue where
  path : List Key
  problem : Problem
  deriving DecidableEq, Repr

/-- an issue of a part, seen from the whole -/
def Issue.under (k : Key) (i : Issue) : Issue := { i with path := k :: i.path }

end Pagewright.Check
