/-
Two ways to show an application: as data, and as a listing for people.
-/
import Pagewright.App
import Pagewright.Json.Writer
import Pagewright.Text.Lines

namespace Pagewright

open Json (Value)
open Text (Lines)

def textsValue (ss : List String) : Value := .array (ss.map .ofString)

/-- a field as data; a default that is not there is left out -/
def Field.toValue (f : Field) : Value :=
  .object (("name", .text f.name) :: ("type", .text f.type) :: ("required", .bool f.required) ::
    match f.default with
    | some l => [("defaultValue", l.toValue)]
    | none => [])

def Model.toValue (m : Model) : Value :=
  .object [("name", .text m.name), ("fields", .array (m.fields.map Field.toValue))]

def Binding.toValue (b : Binding) : Value :=
  .object [("name", .text b.name), ("model", .text b.model), ("fields", textsValue b.fields)]

def Page.toValue (p : Page) : Value :=
  .object [("name", .text p.name), ("title", .text p.title), ("components", textsValue p.components)]

def App.toValue (a : App) : Value :=
  .object [("models", .array (a.models.map Model.toValue)), ("forms", .array (a.forms.map Binding.toValue)),
    ("views", .array (a.views.map Binding.toValue)), ("lists", .array (a.lists.map Binding.toValue)),
    ("pages", .array (a.pages.map Page.toValue))]

namespace Listing

def count (heading : String) (n : Nat) : String := heading ++ ": " ++ toString n

/-- a field, with what is said of it in brackets -/
def fieldLine (f : Field) : String :=
  "  - " ++ f.name ++ ": " ++ f.type ++ (if f.required then " (required)" else "") ++
    match f.default with
    | some l => " (default: " ++ l.toValue.compact ++ ")"
    | none => ""

def modelLines (m : Model) : Lines :=
  ("- " ++ m.name ++ " (" ++ toString m.fields.length ++ " fields)") :: m.fields.map fieldLine

/-- a binding; one that names no fields shows all -/
def bindingLine (b : Binding) : String :=
  let fields := if b.fields.isEmpty then "(all)" else ", ".intercalate b.fields
  "- " ++ b.name ++ " (model: " ++ b.model ++ ", fields: " ++ fields ++ ")"

def pageLine (p : Page) : String :=
  "- " ++ p.name ++ " (" ++ Json.encodeText p.title ++ ", components: " ++ ", ".intercalate p.components ++ ")"

def headed (heading : String) (lines : Lines) : Lines := ["", heading ++ ":"] ++ lines

end Listing

open Listing

/-- an application as a listing: how much of everything there is, and then each thing -/
def App.listing (a : App) : String :=
  Text.unlines
    (["Parsed AST:", count "Models" a.models.length, count "Forms" a.forms.length, count "Views" a.views.length,
        count "Lists" a.lists.length, count "Pages" a.pages.length] ++
      headed "Models" (a.models.flatMap modelLines) ++ headed "Forms" (a.forms.map bindingLine) ++
      headed "Views" (a.views.map bindingLine) ++ headed "Lists" (a.lists.map bindingLine) ++
      headed "Pages" (a.pages.map pageLine))

end Pagewright
