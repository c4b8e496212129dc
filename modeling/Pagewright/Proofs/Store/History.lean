/-
What a store holds and answers after any operations (`account_run`). Numbers are given in order and never twice; a record is
found under its own number, with the time of its making, until it is removed; lists are complete and in the order of the
numbers; operations on applications and on entries do not touch each other, and those on an absent number do nothing.

A store is two shelves, and every operation is an act on each of them (`appShelf_step`, `entryShelf_step`), so that the
theory of shelves says what there is after a history.
-/
import Pagewright.Proofs.Store.Shelf
import Pagewright.Store.Basic

namespace Pagewright.Store

abbrev History := List (Instant × Operation)

/-! ## The two shelves of a store -/

def appKind : RecordKind SavedApp AppDraft AppPatch where
  id := SavedApp.id
  make n t d := ⟨n, d.name, d.description, d.code, t⟩
  patched := SavedApp.patched
  id_make _ _ _ := rfl
  id_patched _ _ := rfl

def entryKind : RecordKind Entry EntryDraft EntryPatch where
  id := Entry.id
  make n t d := ⟨n, d.appId, d.modelName, d.data, t⟩
  patched := Entry.patched
  id_make _ _ _ := rfl
  id_patched _ _ := rfl

namespace Operation

/-- what an operation does to applications -/
def onApps : Operation → Act AppDraft AppPatch
  | .addApp d => .make d
  | .changeApp id p => .change id p
  | .removeApp id => .remove id
  | _ => .pass

def onEntries : Operation → Act EntryDraft EntryPatch
  | .addEntry d => .make d
  | .changeEntry id p => .change id p
  | .removeEntry id => .remove id
  | _ => .pass

end Operation

def appActs (h : History) : List (Instant × Act AppDraft AppPatch) := h.map fun x => (x.1, x.2.onApps)

def entryActs (h : History) : List (Instant × Act EntryDraft EntryPatch) := h.map fun x => (x.1, x.2.onEntries)

def appShelf (s : Store) : Shelf SavedApp := ⟨s.apps, s.nextApp⟩

def entryShelf (s : Store) : Shelf Entry := ⟨s.entries, s.nextEntry⟩

theorem appAt?_eq_none {s : Store} {id : Int} : s.appAt? id = none ↔ ∀ a ∈ s.apps, (a.id : Int) ≠ id := by
  simp [appAt?]

theorem entryAt?_eq_none {s : Store} {id : Int} : s.entryAt? id = none ↔ ∀ e ∈ s.entries, (e.id : Int) ≠ id := by
  simp [entryAt?]

/-- an operation is an act on the applications -/
theorem appShelf_step (s : Store) (now : Instant) (op : Operation) :
    (s.step now op).2.appShelf = s.appShelf.step appKind now op.onApps := by
  cases op with
  | changeApp id p =>
    simp only [Store.step, changeApp, Operation.onApps]
    cases ha : s.appAt? id with
    | none => exact (Shelf.step_absent appKind (s := s.appShelf) (appAt?_eq_none.1 ha) now p).1.symm
    | some a => rfl
  | removeApp id =>
    simp only [Store.step, removeApp, Operation.onApps]
    cases ha : s.appAt? id with
    | none => exact (Shelf.step_absent appKind (s := s.appShelf) (appAt?_eq_none.1 ha) now ⟨none, none, none⟩).2.symm
    | some a => rfl
  | changeEntry id p =>
    simp only [Store.step, changeEntry]
    cases s.entryAt? id <;> rfl
  | removeEntry id =>
    simp only [Store.step, removeEntry]
    cases s.entryAt? id <;> rfl
  | _ => rfl

/-- an operation is an act on the entries -/
theorem entryShelf_step (s : Store) (now : Instant) (op : Operation) :
    (s.step now op).2.entryShelf = s.entryShelf.step entryKind now op.onEntries := by
  cases op with
  | changeEntry id p =>
    simp only [Store.step, changeEntry, Operation.onEntries]
    cases he : s.entryAt? id with
    | none => exact (Shelf.step_absent entryKind (s := s.entryShelf) (entryAt?_eq_none.1 he) now p).1.symm
    | some e => rfl
  | removeEntry id =>
    simp only [Store.step, removeEntry, Operation.onEntries]
    cases he : s.entryAt? id with
    | none => exact (Shelf.step_absent entryKind (s := s.entryShelf) (entryAt?_eq_none.1 he) now ⟨none, none⟩).2.symm
    | some e => rfl
  | changeApp id p =>
    simp only [Store.step, changeApp]
    cases s.appAt? id <;> rfl
  | removeApp id =>
    simp only [Store.step, removeApp]
    cases s.appAt? id <;> rfl
  | _ => rfl

theorem appShelf_run (s : Store) (h : History) : (s.run h).appShelf = s.appShelf.run appKind (appActs h) := by
  induction h generalizing s with
  | nil => rfl
  | cons x h ih =>
    have hstep := ih (s.step x.1 x.2).2
    rw [appShelf_step] at hstep
    exact hstep

theorem entryShelf_run (s : Store) (h : History) : (s.run h).entryShelf = s.entryShelf.run entryKind (entryActs h) := by
  induction h generalizing s with
  | nil => rfl
  | cons x h ih =>
    have hstep := ih (s.step x.1 x.2).2
    rw [entryShelf_step] at hstep
    exact hstep

/-! ## After any history -/

theorem appShelf_history (h : History) : (empty.run h).appShelf = Shelf.empty.run appKind (appActs h) :=
  appShelf_run empty h

theorem entryShelf_history (h : History) : (empty.run h).entryShelf = Shelf.empty.run entryKind (entryActs h) :=
  entryShelf_run empty h

theorem ordered_apps (h : History) : Shelf.Ordered appKind (empty.run h).appShelf := by
  rw [appShelf_history]
  exact Shelf.ordered_run appKind (Shelf.ordered_empty appKind) _

theorem ordered_entries (h : History) : Shelf.Ordered entryKind (empty.run h).entryShelf := by
  rw [entryShelf_history]
  exact Shelf.ordered_run entryKind (Shelf.ordered_empty entryKind) _

/-- the next number is that of the applications made and one more -/
theorem nextApp_run (h : History) : (empty.run h).nextApp = made (appActs h) + 1 := by
  have hnext := Shelf.next_run appKind Shelf.empty (appActs h)
  rw [← appShelf_history, Nat.add_comm] at hnext
  exact hnext

/-- the next number is that of the entries made and one more -/
theorem nextEntry_run (h : History) : (empty.run h).nextEntry = made (entryActs h) + 1 := by
  have hnext := Shelf.next_run entryKind Shelf.empty (entryActs h)
  rw [← entryShelf_history, Nat.add_comm] at hnext
  exact hnext

/-- the applications are what became of those that were made -/
theorem mem_apps_run (h : History) (a : SavedApp) :
    a ∈ (empty.run h).apps ↔ ∃ n t d later, Given (appActs h) n t d later ∧
      appKind.since ⟨n, d.name, d.description, d.code, t⟩ later = some a := by
  have hmem := Shelf.mem_records_run appKind (appActs h) a
  rw [← appShelf_history] at hmem
  exact hmem

/-- the entries are what became of those that were made -/
theorem mem_entries_run (h : History) (e : Entry) :
    e ∈ (empty.run h).entries ↔ ∃ n t d later, Given (entryActs h) n t d later ∧
      entryKind.since ⟨n, d.appId, d.modelName, d.data, t⟩ later = some e := by
  have hmem := Shelf.mem_records_run entryKind (entryActs h) e
  rw [← entryShelf_history] at hmem
  exact hmem

theorem mem_appNumbers_run (h : History) (n : Nat) :
    n ∈ (empty.run h).apps.map SavedApp.id ↔ Live (appActs h) n := by
  have hlive := Shelf.mem_numbers_run appKind (appActs h) n
  rw [← appShelf_history] at hlive
  exact hlive

theorem mem_entryNumbers_run (h : History) (n : Nat) :
    n ∈ (empty.run h).entries.map Entry.id ↔ Live (entryActs h) n := by
  have hlive := Shelf.mem_numbers_run entryKind (entryActs h) n
  rw [← entryShelf_history] at hlive
  exact hlive

/-- an application keeps the number and the time of its making -/
theorem given_of_mem_apps {h : History} {a : SavedApp} (ha : a ∈ (empty.run h).apps) :
    ∃ d later, Given (appActs h) a.id a.created d later := by
  obtain ⟨n, t, d, later, hgiven, hsince⟩ := (mem_apps_run h a).1 ha
  have hid : a.id = n := appKind.since_id hsince
  have hcreated : a.created = t := appKind.since_kept (f := SavedApp.created) (fun _ _ => rfl) hsince
  rw [hid, hcreated]
  exact ⟨d, later, hgiven⟩

/-- an entry keeps the number and the time of its making, and its application -/
theorem given_of_mem_entries {h : History} {e : Entry} (he : e ∈ (empty.run h).entries) :
    ∃ d later, Given (entryActs h) e.id e.created d later ∧ e.appId = d.appId := by
  obtain ⟨n, t, d, later, hgiven, hsince⟩ := (mem_entries_run h e).1 he
  have hid : e.id = n := entryKind.since_id hsince
  have hcreated : e.created = t := entryKind.since_kept (f := Entry.created) (fun _ _ => rfl) hsince
  have happ : e.appId = d.appId := entryKind.since_kept (f := Entry.appId) (fun _ _ => rfl) hsince
  rw [hid, hcreated]
  exact ⟨d, later, hgiven, happ⟩

/-- a name leads to the application of the smallest number that has it -/
theorem appNamed?_run (h : History) (name : String) (a : SavedApp) :
    (empty.run h).appNamed? name = some a ↔ a ∈ (empty.run h).apps ∧ a.name = name ∧
      ∀ b ∈ (empty.run h).apps, b.name = name → a.id ≤ b.id := by
  have hfirst := (ordered_apps h).find?_eq_some_iff (fun b => b.name = name) a
  simp only [decide_eq_true_eq] at hfirst
  exact hfirst

/-! ## One operation -/

/-- what does nothing to applications leaves them alone -/
theorem appsFrame_step (s : Store) (now : Instant) {op : Operation} (hop : op.onApps = .pass) :
    (s.step now op).2.apps = s.apps ∧ (s.step now op).2.nextApp = s.nextApp := by
  have hshelf := appShelf_step s now op
  rw [hop] at hshelf
  exact ⟨congrArg Shelf.records hshelf, congrArg Shelf.next hshelf⟩

/-- what does nothing to entries leaves them alone -/
theorem entriesFrame_step (s : Store) (now : Instant) {op : Operation} (hop : op.onEntries = .pass) :
    (s.step now op).2.entries = s.entries ∧ (s.step now op).2.nextEntry = s.nextEntry := by
  have hshelf := entryShelf_step s now op
  rw [hop] at hshelf
  exact ⟨congrArg Shelf.records hshelf, congrArg Shelf.next hshelf⟩

/-- to change or remove an application that is not there does nothing -/
theorem step_app_absent {s : Store} {id : Int} (hid : ∀ a ∈ s.apps, (a.id : Int) ≠ id) (now : Instant) (p : AppPatch) :
    s.step now (.changeApp id p) = (.app none, s) ∧ s.step now (.removeApp id) = (.removed false, s) := by
  have hnone := appAt?_eq_none.2 hid
  simp only [Store.step, changeApp, removeApp, hnone, and_self]

/-- to change or remove an entry that is not there does nothing -/
theorem step_entry_absent {s : Store} {id : Int} (hid : ∀ e ∈ s.entries, (e.id : Int) ≠ id) (now : Instant)
    (p : EntryPatch) :
    s.step now (.changeEntry id p) = (.entry none, s) ∧ s.step now (.removeEntry id) = (.removed false, s) := by
  have hnone := entryAt?_eq_none.2 hid
  simp only [Store.step, changeEntry, removeEntry, hnone, and_self]

/-- a change of an application that is there gives it the parts that the change has -/
theorem step_changeApp {s : Store} {a : SavedApp} (hfound : s.appAt? a.id = some a) (now : Instant) (p : AppPatch) :
    (s.step now (.changeApp a.id p)).1 = .app (some (a.patched p)) ∧
      a.patched p ∈ (s.step now (.changeApp a.id p)).2.apps := by
  simp only [Store.step, changeApp, hfound]
  exact ⟨trivial, List.mem_map.2 ⟨a, List.mem_of_find?_eq_some hfound, if_pos rfl⟩⟩

/-- a change of an entry that is there gives it the parts that the change has -/
theorem step_changeEntry {s : Store} {e : Entry} (hfound : s.entryAt? e.id = some e) (now : Instant) (p : EntryPatch) :
    (s.step now (.changeEntry e.id p)).1 = .entry (some (e.patched p)) ∧
      e.patched p ∈ (s.step now (.changeEntry e.id p)).2.entries := by
  simp only [Store.step, changeEntry, hfound]
  exact ⟨trivial, List.mem_map.2 ⟨e, List.mem_of_find?_eq_some hfound, if_pos rfl⟩⟩

theorem mem_entriesOf {s : Store} {appId : Int} {modelName : String} {e : Entry} :
    e ∈ s.entriesOf appId modelName ↔ e ∈ s.entries ∧ e.appId = appId ∧ e.modelName = modelName := by
  simp [entriesOf]

/-! ## The account of a store -/

/-- what a store holds and answers after a history that started from nothing -/
structure Account (h : History) (s : Store) : Prop where
  /-- the next application gets the number of those made so far and one more -/
  addApp : ∀ now d, ∃ a, (s.step now (.addApp d)).1 = .app (some a) ∧ a.id = made (appActs h) + 1 ∧ a.created = now
  /-- the next entry gets the number of those made so far and one more -/
  addEntry : ∀ now d, ∃ e, (s.step now (.addEntry d)).1 = .entry (some e) ∧ e.id = made (entryActs h) + 1 ∧
    e.created = now ∧ e.appId = d.appId
  /-- an application that is there was made, and is what the changes since then made of it -/
  apps : ∀ a, a ∈ s.apps ↔ ∃ n t d later, Given (appActs h) n t d later ∧
    appKind.since ⟨n, d.name, d.description, d.code, t⟩ later = some a
  /-- an entry that is there was made, and is what the changes since then made of it -/
  entries : ∀ e, e ∈ s.entries ↔ ∃ n t d later, Given (entryActs h) n t d later ∧
    entryKind.since ⟨n, d.appId, d.modelName, d.data, t⟩ later = some e
  /-- an application keeps the number and the time of its making -/
  appKept : ∀ a ∈ s.apps, ∃ d later, Given (appActs h) a.id a.created d later
  /-- an entry keeps the number and the time of its making, and its application -/
  entryKept : ∀ e ∈ s.entries, ∃ d later, Given (entryActs h) e.id e.created d later ∧ e.appId = d.appId
  /-- an application is found under its own number -/
  getApp : ∀ now n, ∃ r, s.step now (.getApp n) = (.app r, s) ∧ ∀ a, r = some a ↔ a ∈ s.apps ∧ (a.id : Int) = n
  /-- an entry is found under its own number -/
  getEntry : ∀ now n, ∃ r, s.step now (.getEntry n) = (.entry r, s) ∧ ∀ e, r = some e ↔ e ∈ s.entries ∧ (e.id : Int) = n
  /-- all applications made and not removed since are listed, by rising numbers -/
  listApps : ∀ now, s.step now .listApps = (.apps s.apps, s) ∧ (s.apps.map SavedApp.id).Pairwise (· < ·) ∧
    ∀ n, n ∈ s.apps.map SavedApp.id ↔ Live (appActs h) n
  /-- a name leads to the application that has it now, to the one of the smallest number if there are several -/
  getAppNamed : ∀ now name, ∃ r, s.step now (.getAppNamed name) = (.app r, s) ∧
    (r = none ↔ ∀ a ∈ s.apps, a.name ≠ name) ∧
    ∀ a, r = some a ↔ a ∈ s.apps ∧ a.name = name ∧ ∀ b ∈ s.apps, b.name = name → a.id ≤ b.id
  /-- a change gives an application the name, the description and the source that it has, leaves what it does not have as it
  was, and is what is answered and held from then on -/
  changeApp : ∀ now p, ∀ a ∈ s.apps, ∃ b, (s.step now (.changeApp a.id p)).1 = .app (some b) ∧
    b ∈ (s.step now (.changeApp a.id p)).2.apps ∧ b.id = a.id ∧ b.created = a.created ∧ b.name = p.name.getD a.name ∧
    b.description = p.description.getD a.description ∧ b.code = p.code.getD a.code
  /-- a change gives an entry the model and the data that it has, and leaves what it does not have as it was -/
  changeEntry : ∀ now p, ∀ e ∈ s.entries, ∃ f, (s.step now (.changeEntry e.id p)).1 = .entry (some f) ∧
    f ∈ (s.step now (.changeEntry e.id p)).2.entries ∧ f.id = e.id ∧ f.created = e.created ∧ f.appId = e.appId ∧
    f.modelName = p.modelName.getD e.modelName ∧ f.data = p.data.getD e.data
  /-- the entries that are there are those made and not removed since -/
  entriesLive : ∀ n, n ∈ s.entries.map Entry.id ↔ Live (entryActs h) n
  /-- entries are listed for an application and a model, by rising numbers -/
  listEntries : ∀ now appId modelName, ∃ es, s.step now (.listEntries appId modelName) = (.entries es, s) ∧
    (es.map Entry.id).Pairwise (· < ·) ∧ ∀ e, e ∈ es ↔ e ∈ s.entries ∧ e.appId = appId ∧ e.modelName = modelName
  /-- every entry is listed for one application and one model -/
  listedOnce : ∀ now, ∀ e ∈ s.entries, ∃! q : Int × String, ∃ es,
    (s.step now (.listEntries q.1 q.2)).1 = .entries es ∧ e ∈ es
  /-- an operation that does nothing to applications leaves them and their numbers alone -/
  appsFrame : ∀ now op, op.onApps = .pass → (s.step now op).2.apps = s.apps ∧ (s.step now op).2.nextApp = s.nextApp
  /-- an operation that does nothing to entries leaves them and their numbers alone -/
  entriesFrame : ∀ now op, op.onEntries = .pass →
    (s.step now op).2.entries = s.entries ∧ (s.step now op).2.nextEntry = s.nextEntry
  /-- to change or remove an application that is not there does nothing -/
  appAbsent : ∀ now id p, (∀ a ∈ s.apps, (a.id : Int) ≠ id) →
    s.step now (.changeApp id p) = (.app none, s) ∧ s.step now (.removeApp id) = (.removed false, s)
  /-- to change or remove an entry that is not there does nothing -/
  entryAbsent : ∀ now id p, (∀ e ∈ s.entries, (e.id : Int) ≠ id) →
    s.step now (.changeEntry id p) = (.entry none, s) ∧ s.step now (.removeEntry id) = (.removed false, s)

/-- **The account of a store.** After any operations from nothing, a store gives numbers in order, holds what was made and
not removed since as the changes left it, finds and lists it by number, name, application and model, keeps applications and
entries apart, and does nothing on an absent number. -/
theorem account_run (h : History) : Account h (empty.run h) where
  addApp := fun _ _ => ⟨_, rfl, nextApp_run h, rfl⟩
  addEntry := fun _ _ => ⟨_, rfl, nextEntry_run h, rfl, rfl⟩
  apps := mem_apps_run h
  entries := mem_entries_run h
  appKept := fun _ ha => given_of_mem_apps ha
  entryKept := fun _ he => given_of_mem_entries he
  getApp := fun _ n => ⟨_, rfl, (ordered_apps h).find?_number n⟩
  getEntry := fun _ n => ⟨_, rfl, (ordered_entries h).find?_number n⟩
  listApps := fun _ => ⟨rfl, (ordered_apps h).rising, mem_appNumbers_run h⟩
  getAppNamed := fun _ name => ⟨_, rfl, by simp [appNamed?], appNamed?_run h name⟩
  changeApp := by
    intro now p a ha
    have hfound := ((ordered_apps h).find?_number a.id a).2 ⟨ha, rfl⟩
    obtain ⟨hanswer, hheld⟩ := step_changeApp hfound now p
    exact ⟨_, hanswer, hheld, rfl, rfl, rfl, rfl, rfl⟩
  changeEntry := by
    intro now p e he
    have hfound := ((ordered_entries h).find?_number e.id e).2 ⟨he, rfl⟩
    obtain ⟨hanswer, hheld⟩ := step_changeEntry hfound now p
    exact ⟨_, hanswer, hheld, rfl, rfl, rfl, rfl, rfl⟩
  entriesLive := mem_entryNumbers_run h
  listEntries := by
    intro now appId modelName
    refine ⟨_, rfl, ?_, fun e => mem_entriesOf⟩
    exact (ordered_entries h).rising.sublist (List.filter_sublist.map Entry.id)
  listedOnce := by
    intro now e he
    refine ⟨(e.appId, e.modelName), ⟨_, rfl, mem_entriesOf.2 ⟨he, rfl, rfl⟩⟩, ?_⟩
    intro q hq
    obtain ⟨es, hes, hmem⟩ := hq
    cases hes
    obtain ⟨-, happ, hmodel⟩ := mem_entriesOf.1 hmem
    exact Prod.ext happ.symm hmodel.symm
  appsFrame := fun now _ hop => appsFrame_step _ now hop
  entriesFrame := fun now _ hop => entriesFrame_step _ now hop
  appAbsent := fun now _ p hid => step_app_absent hid now p
  entryAbsent := fun now _ p hid => step_entry_absent hid now p

end Pagewright.Store
