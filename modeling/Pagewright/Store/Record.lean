/-
What is kept for later: saved applications, which are source texts with a name and a description, and entries, which
are data objects that belong to an application and one of its models. Drafts describe what is to be created. Patches
describe changes: what a patch does not give stays as it is. Descriptions, sources and data may hold halves, names may not.
-/
import Pagewright.Calendar
import Pagewright.Json.Value

namespace Pagewright.Store

open Text (Wide)

structure SavedApp where
  id : Nat
  name : String
  description : Option Wide
  code : Wide
  created : Instant

structure Entry where
  id : Nat
  appId : Int
  modelName : String
  data : Json.Members
  created : Instant

structure AppDraft where
  name : String
  description : Option Wide
  code : Wide

/-- a change of a saved application; the description may be taken away -/
structure AppPatch where
  name : Option String
  description : Option (Option Wide)
  code : Option Wide

structure EntryDraft where
  appId : Int
  modelName : String
  data : Json.Members

/-- a change of an entry; data are replaced as a whole -/
structure EntryPatch where
  modelName : Option String
  data : Option Json.Members

/-- a saved application after a change -/
def SavedApp.patched (a : SavedApp) (p : AppPatch) : SavedApp :=
  { a with name := p.name.getD a.name, description := p.description.getD a.description, code := p.code.getD a.code }

def Entry.patched (e : Entry) (p : EntryPatch) : Entry :=
  { e with modelName := p.modelName.getD e.modelName, data := p.data.getD e.data }

/-- two changes in one: where both give something, the second -/
def AppPatch.overlay (p q : AppPatch) : AppPatch :=
  ⟨q.name <|> p.name, q.description <|> p.description, q.code <|> p.code⟩

/-- two changes in one: where both give something, the second -/
def EntryPatch.overlay (p q : EntryPatch) : EntryPatch :=
  ⟨q.modelName <|> p.modelName, q.data <|> p.data⟩

def SavedApp.toValue (a : SavedApp) : Json.Value :=
  .object [("id", .int a.id), ("name", .text a.name), ("description", .ofOption (a.description.map .text)),
    ("code", .text a.code), ("created_at", .text a.created.text)]

def Entry.toValue (e : Entry) : Json.Value :=
  .object [("id", .int e.id), ("app_id", .int e.appId), ("model_name", .text e.modelName), ("data", .object e.data),
    ("created_at", .text e.created.text)]

end Pagewright.Store
