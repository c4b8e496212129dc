/-
Reading an application tree, or a part of one, and options from data.
-/
import Pagewright.Check.Reading
import Pagewright.Options

namespace Pagewright.Check

open Json (Value Members)
open Reading

/-- a field; its default has the key `default` -/
def field : Value → Reading Field :=
  record .field fun ms =>
    ((((required "name" name ms).into Field.mk).andAlso (required "type" name ms)).andAlso
      (optional "required" false bool ms)).andAlso (optional "default" none literal ms)

def model : Value → Reading Model :=
  record .model fun ms =>
    ((required "name" name ms).into Model.mk).andAlso (optional "fields" [] (array field) ms)

/-- the record a kind of binding is read as -/
def bindingShape : BindingKind → Shape
  | .form => .form
  | .list => .list
  | .view => .view

def binding (k : BindingKind) : Value → Reading Binding :=
  record (bindingShape k) fun ms =>
    (((required "name" name ms).into Binding.mk).andAlso (required "model" name ms)).andAlso
      (optional "fields" [] names ms)

def page : Value → Reading Page :=
  record .page fun ms =>
    (((required "name" name ms).into Page.mk).andAlso (required "title" text ms)).andAlso
      (optional "components" [] names ms)

def app : Value → Reading App :=
  record .app fun ms =>
    (((((optional "models" [] (array model) ms).into App.mk).andAlso
      (optional "forms" [] (array (binding .form)) ms)).andAlso
      (optional "views" [] (array (binding .view)) ms)).andAlso
      (optional "lists" [] (array (binding .list)) ms)).andAlso
      (optional "pages" [] (array page) ms)

/-- the names of a record's members, in their order -/
def Shape.keys : Shape → List String
  | .field => ["name", "type", "required", "default"]
  | .model => ["name", "fields"]
  | .form | .list | .view => ["name", "model", "fields"]
  | .page => ["name", "title", "components"]
  | .app => ["models", "forms", "views", "lists", "pages"]
  | .options => ["lenient", "strict_types", "validate_field_refs", "app_title", "footer_text"]
  | .appCreate | .appUpdate => ["name", "description", "code"]
  | .dataCreate => ["app_id", "model_name", "data"]
  | .dataUpdate => ["model_name", "data"]

/-- the members of a record that a value gives, by name -/
def given (s : Shape) : Value → List String
  | .object ms => (s.keys.filter fun k : String => (Members.get? ms k).isSome).mergeSort
  | _ => []

/-- options; unknown members are refused -/
def options : Value → Reading Options :=
  record .options fun ms =>
    let standard := Options.standard
    ((((((optional "lenient" standard.lenient bool ms).into
        fun lenient strictTypes validateFieldRefs appTitle footerText (_ : Unit) =>
          (⟨lenient, strictTypes, validateFieldRefs, appTitle, footerText⟩ : Options)).andAlso
      (optional "strict_types" standard.strictTypes bool ms)).andAlso
      (optional "validate_field_refs" standard.validateFieldRefs bool ms)).andAlso
      (optional "app_title" standard.appTitle text ms)).andAlso
      (optional "footer_text" standard.footerText text ms)).andAlso
      (onlyKnown Shape.options.keys ms)

end Pagewright.Check
