/-
The store: saved applications and entries in the order they were created, each under a number that is never given
twice. `step` performs one operation, `run` a sequence of them. Operations on an absent number change nothing.
-/
import Pagewright.Log.Event
import Pagewright.Store.Record

namespace Pagewright

/-- what is kept, and the numbers the next creations will get -/
structure Store where
  apps : List Store.SavedApp
  entries : List Store.Entry
  nextApp : Nat
  nextEntry : Nat

namespace Store

/-- the store that nothing was saved in -/
def empty : Store := ⟨[], [], 1, 1⟩

/-- the application with a number -/
def appAt? (s : Store) (id : Int) : Option SavedApp := s.apps.find? fun a => (a.id : Int) = id

/-- the first application with a name -/
def appNamed? (s : Store) (name : String) : Option SavedApp := s.apps.find? fun a => a.name = name

def entryAt? (s : Store) (id : Int) : Option Entry := s.entries.find? fun e => (e.id : Int) = id

/-- the entries of an application for a model -/
def entriesOf (s : Store) (appId : Int) (modelName : String) : List Entry :=
  s.entries.filter fun e => e.appId = appId && e.modelName = modelName

def addApp (s : Store) (now : Instant) (d : AppDraft) : SavedApp × Store :=
  let a : SavedApp := ⟨s.nextApp, d.name, d.description, d.code, now⟩
  (a, { s with apps := s.apps ++ [a], nextApp := s.nextApp + 1 })

def changeApp (s : Store) (id : Int) (p : AppPatch) : Option SavedApp × Store :=
  match s.appAt? id with
  | none => (none, s)
  | some a => (some (a.patched p), { s with apps := s.apps.map fun b => if (b.id : Int) = id then b.patched p else b })

/-- remove an application; its entries stay -/
def removeApp (s : Store) (id : Int) : Bool × Store :=
  match s.appAt? id with
  | none => (false, s)
  | some _ => (true, { s with apps := s.apps.filter fun b => (b.id : Int) ≠ id })

/-- make an entry; whether its application exists is not asked -/
def addEntry (s : Store) (now : Instant) (d : EntryDraft) : Entry × Store :=
  let e : Entry := ⟨s.nextEntry, d.appId, d.modelName, d.data, now⟩
  (e, { s with entries := s.entries ++ [e], nextEntry := s.nextEntry + 1 })

def changeEntry (s : Store) (id : Int) (p : EntryPatch) : Option Entry × Store :=
  match s.entryAt? id with
  | none => (none, s)
  | some e =>
    (some (e.patched p), { s with entries := s.entries.map fun f => if (f.id : Int) = id then f.patched p else f })

def removeEntry (s : Store) (id : Int) : Bool × Store :=
  match s.entryAt? id with
  | none => (false, s)
  | some _ => (true, { s with entries := s.entries.filter fun f => (f.id : Int) ≠ id })

def creations (s : Store) : Nat := (s.nextApp - 1) + (s.nextEntry - 1)

inductive Operation where
  | listApps
  | getApp (id : Int)
  | getAppNamed (name : String)
  | addApp (d : AppDraft)
  | changeApp (id : Int) (p : AppPatch)
  | removeApp (id : Int)
  | listEntries (appId : Int) (modelName : String)
  | getEntry (id : Int)
  | addEntry (d : EntryDraft)
  | changeEntry (id : Int) (p : EntryPatch)
  | removeEntry (id : Int)

inductive Answer where
  | apps (as : List SavedApp)
  | app (a : Option SavedApp)
  | entries (es : List Entry)
  | entry (e : Option Entry)
  | removed (b : Bool)

def step (s : Store) (now : Instant) : Operation → Answer × Store
  | .listApps => (.apps s.apps, s)
  | .getApp id => (.app (s.appAt? id), s)
  | .getAppNamed name => (.app (s.appNamed? name), s)
  | .addApp d => let (a, t) := s.addApp now d; (.app (some a), t)
  | .changeApp id p => let (a, t) := s.changeApp id p; (.app a, t)
  | .removeApp id => let (b, t) := s.removeApp id; (.removed b, t)
  | .listEntries appId modelName => (.entries (s.entriesOf appId modelName), s)
  | .getEntry id => (.entry (s.entryAt? id), s)
  | .addEntry d => let (e, t) := s.addEntry now d; (.entry (some e), t)
  | .changeEntry id p => let (e, t) := s.changeEntry id p; (.entry e, t)
  | .removeEntry id => let (b, t) := s.removeEntry id; (.removed b, t)

/-- a sequence of operations, each at its time -/
def run (s : Store) (ops : List (Instant × Operation)) : Store :=
  ops.foldl (fun t op => (t.step op.1 op.2).2) s

def noted (message : String) : List Log.Event := [⟨.info, .storage, message⟩]

/-- what is reported of an operation that changed the store -/
def report : Operation → Answer → List Log.Event
  | .addApp _, .app (some a) => noted ("Created app " ++ toString a.id)
  | .changeApp id _, .app (some _) => noted ("Updated app " ++ Json.intText id)
  | .removeApp id, .removed true => noted ("Deleted app " ++ Json.intText id)
  | .addEntry _, .entry (some e) => noted ("Created " ++ e.modelName ++ " record " ++ toString e.id)
  | .changeEntry id _, .entry (some _) => noted ("Updated data record " ++ Json.intText id)
  | .removeEntry id, .removed true => noted ("Deleted data record " ++ Json.intText id)
  | _, _ => []

end Store

end Pagewright
