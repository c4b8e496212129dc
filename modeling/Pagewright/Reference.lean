/-
References to what is not declared. A binding names a model and fields of it; the names are looked up when something is
generated from the binding, and the first one that leads nowhere is the error.
-/
import Pagewright.App
import Pagewright.Options

namespace Pagewright

/-- a name that leads nowhere: what kind of thing it should name, which binding holds it, and, for a field, the model
it was looked up in -/
structure UnknownReference where
  kind : String
  name : String
  ownerKind : String
  owner : String
  model : Option String
  deriving DecidableEq, Repr

namespace UnknownReference

def message (r : UnknownReference) : String :=
  if r.kind = "model" then "Model " ++ r.name ++ " not found for " ++ r.ownerKind ++ " " ++ r.owner
  else "Field " ++ r.name ++ " not found in model " ++ r.model.getD "None" ++ " for " ++ r.ownerKind ++ " " ++ r.owner

/-- a binding of a model that is not declared -/
def ofModel (c : Component) : UnknownReference :=
  ⟨"model", c.binding.model, c.kind.name, c.binding.name, none⟩

/-- a binding of a field that its model does not declare -/
def ofField (c : Component) (m : Model) (field : String) : UnknownReference :=
  ⟨"field", field, c.kind.name, c.binding.name, some m.name⟩

end UnknownReference

def App.lookupModel (a : App) (c : Component) : Except UnknownReference Model :=
  match a.model? c.binding.model with
  | some m => .ok m
  | none => .error (.ofModel c)

/-- what a name in a binding means in its model; a name the model does not declare is refused, or is a text field -/
def resolveField (o : Options) (c : Component) (m : Model) (name : String) : Except UnknownReference Field :=
  match m.field? name with
  | some f => .ok f
  | none =>
    if o.validateFieldRefs then .error (.ofField c m name) else .ok ⟨name, FieldKind.text.name, false, none⟩

/-- what names in a binding mean, in their order -/
def resolveNames (o : Options) (c : Component) (m : Model) : List String → Except UnknownReference (List Field)
  | [] => .ok []
  | n :: ns => do
    let f ← resolveField o c m n
    let fs ← resolveNames o c m ns
    pure (f :: fs)

/-- the fields a binding shows, in display order: those it names, or all of its model when it names none -/
def App.lookupFields (a : App) (o : Options) (c : Component) : Except UnknownReference (List Field) := do
  let m ← a.lookupModel c
  if c.binding.fields.isEmpty then pure m.fields else resolveNames o c m c.binding.fields

/-- the first model of each name, where names in `seen` have occurred -/
def firstOfEachName (seen : List String) : List Model → List Model
  | [] => []
  | m :: ms => if seen.contains m.name then firstOfEachName seen ms else m :: firstOfEachName (m.name :: seen) ms

/-- the models that a name can lead to -/
def App.distinctModels (a : App) : List Model := firstOfEachName [] a.models

end Pagewright
