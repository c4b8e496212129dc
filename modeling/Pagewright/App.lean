/-
The tree of an application: models with their fields, the forms, lists and views bound to them, and pages composed of
those. Declarations keep their order and may repeat a name; a lookup finds the first one. References are by name and
are not resolved here.
-/
import Pagewright.Check.Issue
import Pagewright.Json.Value
import Pagewright.Name

namespace Pagewright

inductive Literal where
  | bool (b : Bool)
  | int (n : Int)
  | float (x : Number.Binary64)
  | text (s : String)
  deriving DecidableEq, Repr

def Literal.toValue : Literal → Json.Value
  | .bool b => .bool b
  | .int n => .int n
  | .float x => .float x
  | .text s => .text s

/-- the types a field can be rendered as -/
inductive FieldKind where
  | text | number | boolean | date
  deriving DecidableEq, Repr

namespace FieldKind

def name : FieldKind → String
  | .text => "text"
  | .number => "number"
  | .boolean => "boolean"
  | .date => "date"

def ofName? (s : String) : Option FieldKind :=
  [FieldKind.text, .number, .boolean, .date].find? fun k => k.name = s

end FieldKind

/-- a field of a model; its type is a name, which need not be one of the known types -/
structure Field where
  name : String
  type : String
  required : Bool
  default : Option Literal
  deriving DecidableEq, Repr

namespace Field

/-- the type a field is rendered as: an unknown one like text -/
def kind (f : Field) : FieldKind := (FieldKind.ofName? f.type).getD .text

/-- whether the type is one of the known ones -/
def isKnown (f : Field) : Bool := (FieldKind.ofName? f.type).isSome

end Field

structure Model where
  name : String
  fields : List Field
  deriving DecidableEq, Repr

/-- the first field with a name -/
def Model.field? (m : Model) (name : String) : Option Field := m.fields.find? fun f => f.name = name

/-- the three ways a model is shown -/
inductive BindingKind where
  | form | list | view
  deriving DecidableEq, Repr

def BindingKind.name : BindingKind → String
  | .form => "form"
  | .list => "list"
  | .view => "view"

/-- a form, list or view: it shows the named fields of a model, or all of them when it names none -/
structure Binding where
  name : String
  model : String
  fields : List String
  deriving DecidableEq, Repr

/-- a binding together with its kind -/
structure Component where
  kind : BindingKind
  binding : Binding
  deriving DecidableEq, Repr

/-- a titled page and the names of what stands on it -/
structure Page where
  name : String
  title : String
  components : List String
  deriving DecidableEq, Repr

structure App where
  models : List Model
  forms : List Binding
  views : List Binding
  lists : List Binding
  pages : List Page
  deriving DecidableEq, Repr

namespace App

/-- the application that declares nothing -/
def empty : App := ⟨[], [], [], [], []⟩

/-- the declarations of one application after those of another -/
def append (a b : App) : App :=
  ⟨a.models ++ b.models, a.forms ++ b.forms, a.views ++ b.views, a.lists ++ b.lists, a.pages ++ b.pages⟩

def bindings (a : App) : BindingKind → List Binding
  | .form => a.forms
  | .list => a.lists
  | .view => a.views

/-- the first model with a name -/
def model? (a : App) (name : String) : Option Model := a.models.find? fun m => m.name = name

/-- the first binding of a kind with a name -/
def binding? (a : App) (k : BindingKind) (name : String) : Option Binding :=
  (a.bindings k).find? fun b => b.name = name

/-- the first binding of a kind with a name, with its kind -/
def componentOf? (a : App) (k : BindingKind) (name : String) : Option Component :=
  (a.binding? k name).map fun b => ⟨k, b⟩

/-- what a page means by a name: a form, else a list, else a view -/
def component? (a : App) (name : String) : Option Component :=
  a.componentOf? .form name <|> a.componentOf? .list name <|> a.componentOf? .view name

/-- the lists and then the views that show a model -/
def displaysOf (a : App) (model : String) : List Component :=
  (a.lists.map (Component.mk .list) ++ a.views.map (Component.mk .view)).filter fun c => c.binding.model = model

/-- the first page -/
def landingPage? (a : App) : Option Page := a.pages.head?

end App

/-! ## Names in a tree -/

open Check

/-- what is wrong with a name in a tree -/
def nameIssues (key : String) (s : String) : List Issue :=
  match Name.check s with
  | .ok _ => []
  | .error reason => [⟨[.name key], .refused reason⟩]

/-- what is wrong with a list of names: the first one that is no name -/
def namesIssues (key : String) (names : List String) : List Issue :=
  match names.find? fun s => !Name.isAccepted s.toList with
  | none => []
  | some s => [⟨[.name key], .refused (Name.refusal s)⟩]

def Field.issues (f : Field) : List Issue := nameIssues "name" f.name ++ nameIssues "type" f.type

def Model.issues (m : Model) : List Issue := nameIssues "name" m.name

def Binding.issues (b : Binding) : List Issue :=
  nameIssues "name" b.name ++ nameIssues "model" b.model ++ namesIssues "fields" b.fields

def Page.issues (p : Page) : List Issue := nameIssues "name" p.name ++ namesIssues "components" p.components

end Pagewright
