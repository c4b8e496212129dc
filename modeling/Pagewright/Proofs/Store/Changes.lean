/-
Changes compose. Two changes of one record are one change, in which the second wins where both give something; a change made
twice is made once; and changes and removals of different records can be made in either order, with the same answers
(`changes_compose`). So do the data that changes are sent as: one body laid over another is read as one change laid over the
other (`Check.appPatch_overlay`, `Check.entryPatch_overlay`).

What a change or a removal leaves of a shelf is what it leaves of each record on it, so both laws are about one record
(`RecordKind.fate_change_change`, `RecordKind.fate_comm`).
-/
import Pagewright.Proofs.Check.Reading
import Pagewright.Proofs.Json.Members
import Pagewright.Proofs.Store.History

namespace Pagewright

/-! ## Bodies laid over one another -/

namespace Check

open Store (AppPatch EntryPatch)

/-- a part of a change is read from the upper body, or else from the lower one -/
theorem get?_overlay_map {α : Type} {u v : Json.Members} (hv : (v.map Prod.fst).Nodup) {key : String}
    {write : α → Json.Value} {x y : Option α} (hu : u.get? key = x.map write) (hv' : v.get? key = y.map write) :
    (u.overlay v).get? key = (y.or x).map write := by
  rw [Json.Members.get?_overlay hv, hu, hv', Option.map_or]

/-- what is laid over a part that is no empty text is none either -/
theorem or_ne_empty {x y : Option String} (hx : x ≠ some "") (hy : y ≠ some "") : y.or x ≠ some "" := by
  cases y with
  | none => exact hx
  | some t => exact hy

theorem appPatch_overlay {u v : Json.Members} (hkeys : (v.map Prod.fst).Nodup) {p q : AppPatch}
    (hu : appPatch (.object u) = .ok p) (hv : appPatch (.object v) = .ok q) :
    appPatch (.object (u.overlay v)) = .ok (p.overlay q) := by
  obtain ⟨_, hms, ⟨hname, hfull⟩, hdescription, hcode⟩ := appPatch_eq_ok.1 hu
  cases hms
  obtain ⟨_, hms, ⟨hname', hfull'⟩, hdescription', hcode'⟩ := appPatch_eq_ok.1 hv
  cases hms
  simp only [appPatch_eq_ok, AppPatch.overlay, Option.orElse_eq_orElse, Option.orElse_eq_or]
  exact ⟨_, rfl, ⟨get?_overlay_map hkeys hname hname', or_ne_empty hfull hfull'⟩,
    get?_overlay_map hkeys hdescription hdescription', get?_overlay_map hkeys hcode hcode'⟩

theorem entryPatch_overlay {u v : Json.Members} (hkeys : (v.map Prod.fst).Nodup) {p q : EntryPatch}
    (hu : entryPatch (.object u) = .ok p) (hv : entryPatch (.object v) = .ok q) :
    entryPatch (.object (u.overlay v)) = .ok (p.overlay q) := by
  obtain ⟨_, hms, ⟨hname, hfull⟩, hdata⟩ := entryPatch_eq_ok.1 hu
  cases hms
  obtain ⟨_, hms, ⟨hname', hfull'⟩, hdata'⟩ := entryPatch_eq_ok.1 hv
  cases hms
  simp only [entryPatch_eq_ok, EntryPatch.overlay, Option.orElse_eq_orElse, Option.orElse_eq_or]
  exact ⟨_, rfl, ⟨get?_overlay_map hkeys hname hname', or_ne_empty hfull hfull'⟩, get?_overlay_map hkeys hdata hdata'⟩

end Check

namespace Store

/-! ## One record -/

section

variable {α δ π : Type}

namespace Act

/-- the number that a change or a removal names -/
def target? : Act δ π → Option Int
  | .change n _ => some n
  | .remove n => some n
  | _ => none

/-- nothing is made -/
def IsEdit (x : Act δ π) : Prop := ∀ d, x ≠ .make d

/-- no number is named by both -/
def Apart (x y : Act δ π) : Prop := ∀ n, x.target? = some n → y.target? ≠ some n

end Act

namespace RecordKind

variable (K : RecordKind α δ π)

/-- a record is left alone by what does not name its number -/
theorem fate_of_ne {a : α} {x : Act δ π} (h : x.target? ≠ some (K.id a : Int)) : K.fate a x = some a := by
  cases x with
  | change n p => exact congrArg some (if_neg fun e => h (congrArg some e.symm))
  | remove n => exact if_neg fun e => h (congrArg some e.symm)
  | make d => rfl
  | pass => rfl

/-- two changes of one record are one -/
theorem fate_change_change {p q r : π} (h : ∀ a, K.patched (K.patched a p) q = K.patched a r) (n : Int) (a : α) :
    (K.fate a (.change n p)).bind (fun b => K.fate b (.change n q)) = K.fate a (.change n r) := by
  by_cases hn : (K.id a : Int) = n
  · simp [fate, hn, K.id_patched, h]
  · simp [fate, hn]

/-- what names different numbers can happen to a record in either order -/
theorem fate_comm {x y : Act δ π} (h : x.Apart y) (a : α) :
    (K.fate a x).bind (fun b => K.fate b y) = (K.fate a y).bind fun b => K.fate b x := by
  -- one of the two does not name the record, nor what the other leaves of it
  have hskip : ∀ {x y : Act δ π}, x.target? ≠ some (K.id a : Int) →
      (K.fate a x).bind (fun b => K.fate b y) = (K.fate a y).bind fun b => K.fate b x := by
    intro x y hx
    rw [K.fate_of_ne hx, Option.bind_some]
    cases hy : K.fate a y with
    | none => rfl
    | some b =>
      have hid : K.id b = K.id a := K.fate_kept K.id_patched hy
      rw [Option.bind_some, K.fate_of_ne (by rwa [hid])]
  by_cases hx : x.target? = some (K.id a : Int)
  · exact (hskip (h _ hx)).symm
  · exact hskip hx

end RecordKind

/-! ## A shelf -/

namespace Shelf

variable (K : RecordKind α δ π)

theorem step_eq_filterMap {x : Act δ π} (hx : x.IsEdit) (s : Shelf α) (now : Instant) :
    s.step K now x = ⟨s.records.filterMap fun a => K.fate a x, s.next⟩ := by
  cases x with
  | make d => exact absurd rfl (hx d)
  | change n p =>
    simp only [step, RecordKind.fate]
    rw [← Function.comp_def some, List.filterMap_eq_map]
  | remove n =>
    simp only [step, RecordKind.fate]
    rw [← List.filterMap_eq_filter]
    simp [Option.guard, ite_not]
  | pass => simp [step, RecordKind.fate]

theorem step_change_change {p q r : π} (h : ∀ a, K.patched (K.patched a p) q = K.patched a r) (s : Shelf α) (n : Int)
    (t t' t'' : Instant) : (s.step K t (.change n p)).step K t' (.change n q) = s.step K t'' (.change n r) := by
  have hedit : ∀ p : π, (Act.change n p : Act δ π).IsEdit := fun p d => by simp
  simp only [step_eq_filterMap K (hedit _), List.filterMap_filterMap, K.fate_change_change h]

theorem step_comm {x y : Act δ π} (hx : x.IsEdit) (hy : y.IsEdit) (h : x.Apart y) (s : Shelf α) (t t' : Instant) :
    (s.step K t x).step K t' y = (s.step K t' y).step K t x := by
  simp only [step_eq_filterMap K hx, step_eq_filterMap K hy, List.filterMap_filterMap, K.fate_comm h]

/-- a record is found as before, when what happens does not name its number -/
theorem find?_step {x : Act δ π} (hx : x.IsEdit) {n : Int} (hn : x.target? ≠ some n) (s : Shelf α) (now : Instant) :
    (s.step K now x).records.find? (fun a => (K.id a : Int) = n) = s.records.find? fun a => (K.id a : Int) = n := by
  have hkept : ∀ a, (K.id a : Int) = n → K.fate a x = some a := fun a ha => K.fate_of_ne (ha ▸ hn)
  have hfound : ∀ a, (K.fate a x).any (fun b => decide ((K.id b : Int) = n)) = decide ((K.id a : Int) = n) := by
    intro a
    by_cases ha : (K.id a : Int) = n
    · simp [hkept a ha]
    · cases hb : K.fate a x with
      | none => simp [ha]
      | some b =>
        have hid : K.id b = K.id a := K.fate_kept K.id_patched hb
        simp [hid]
  rw [step_eq_filterMap K hx, List.find?_filterMap]
  simp only [hfound]
  cases ha : s.records.find? fun a => (K.id a : Int) = n with
  | none => rfl
  | some a => exact hkept a (by simpa using List.find?_some ha)

/-- after a change of the record with a number, it is found changed -/
theorem find?_step_change (s : Shelf α) (now : Instant) (n : Int) (p : π) :
    (s.step K now (.change n p)).records.find? (fun a => (K.id a : Int) = n) =
      (s.records.find? fun a => (K.id a : Int) = n).map fun a => K.patched a p := by
  have hid : ∀ a, K.id (if (K.id a : Int) = n then K.patched a p else a) = K.id a := by
    intro a
    split_ifs
    · exact K.id_patched a p
    · rfl
  simp only [step, List.find?_map, Function.comp_def, hid]
  cases ha : s.records.find? fun a => (K.id a : Int) = n with
  | none => rfl
  | some a => simpa using fun hne => absurd (by simpa using List.find?_some ha) hne

end Shelf

end

/-! ## Patches -/

theorem AppPatch.overlay_self (p : AppPatch) : p.overlay p = p := by
  obtain ⟨name, description, code⟩ := p
  cases name <;> cases description <;> cases code <;> rfl

theorem EntryPatch.overlay_self (p : EntryPatch) : p.overlay p = p := by
  obtain ⟨modelName, data⟩ := p
  cases modelName <;> cases data <;> rfl

theorem SavedApp.patched_patched (a : SavedApp) (p q : AppPatch) : (a.patched p).patched q = a.patched (p.overlay q) := by
  obtain ⟨name, description, code⟩ := q
  cases name <;> cases description <;> cases code <;> rfl

theorem Entry.patched_patched (e : Entry) (p q : EntryPatch) : (e.patched p).patched q = e.patched (p.overlay q) := by
  obtain ⟨modelName, data⟩ := q
  cases modelName <;> cases data <;> rfl

/-! ## A store -/

/-- a store is its two shelves -/
theorem eq_of_shelves {s s' : Store} (happs : s.appShelf = s'.appShelf) (hentries : s.entryShelf = s'.entryShelf) :
    s = s' := by
  obtain ⟨apps, entries, nextApp, nextEntry⟩ := s
  cases happs
  cases hentries
  rfl

theorem answer_changeApp (s : Store) (t : Instant) (id : Int) (p : AppPatch) :
    (s.step t (.changeApp id p)).1 = .app ((s.appAt? id).map (·.patched p)) := by
  simp only [Store.step, changeApp]
  cases s.appAt? id <;> rfl

theorem answer_changeEntry (s : Store) (t : Instant) (id : Int) (p : EntryPatch) :
    (s.step t (.changeEntry id p)).1 = .entry ((s.entryAt? id).map (·.patched p)) := by
  simp only [Store.step, changeEntry]
  cases s.entryAt? id <;> rfl

theorem appAt?_changeApp (s : Store) (t : Instant) (id : Int) (p : AppPatch) :
    (s.step t (.changeApp id p)).2.appAt? id = (s.appAt? id).map (·.patched p) := by
  have hshelf := appShelf_step s t (.changeApp id p)
  show (s.step t (.changeApp id p)).2.appShelf.records.find? _ = _
  rw [hshelf]
  exact Shelf.find?_step_change appKind s.appShelf t id p

theorem entryAt?_changeEntry (s : Store) (t : Instant) (id : Int) (p : EntryPatch) :
    (s.step t (.changeEntry id p)).2.entryAt? id = (s.entryAt? id).map (·.patched p) := by
  have hshelf := entryShelf_step s t (.changeEntry id p)
  show (s.step t (.changeEntry id p)).2.entryShelf.records.find? _ = _
  rw [hshelf]
  exact Shelf.find?_step_change entryKind s.entryShelf t id p

/-- what an operation changes or removes -/
inductive Subject where
  | app (id : Int)
  | entry (id : Int)
  deriving DecidableEq

def Operation.subject? : Operation → Option Subject
  | .changeApp id _ => some (.app id)
  | .removeApp id => some (.app id)
  | .changeEntry id _ => some (.entry id)
  | .removeEntry id => some (.entry id)
  | _ => none

def SameAt (s s' : Store) : Subject → Prop
  | .app id => s.appAt? id = s'.appAt? id
  | .entry id => s.entryAt? id = s'.entryAt? id

section

variable {x y : Operation} {z w : Subject}

/-- a change or a removal makes nothing, and names its subject only -/
theorem Operation.acts_of_subject (hx : x.subject? = some z) : x.onApps.IsEdit ∧ x.onEntries.IsEdit ∧
    (∀ n, x.onApps.target? = some n ↔ z = .app n) ∧ ∀ n, x.onEntries.target? = some n ↔ z = .entry n := by
  cases x with
  | changeApp | removeApp | changeEntry | removeEntry =>
    cases hx
    simp [onApps, onEntries, Act.IsEdit, Act.target?]
  | _ => cases hx

/-- the answer depends on the subject alone -/
theorem answer_congr {s s' : Store} (hx : x.subject? = some z) (h : SameAt s s' z) (t t' : Instant) :
    (s.step t x).1 = (s'.step t' x).1 := by
  cases x with
  | changeApp id p =>
    cases hx
    rw [answer_changeApp, answer_changeApp, show s.appAt? id = s'.appAt? id from h]
  | changeEntry id p =>
    cases hx
    rw [answer_changeEntry, answer_changeEntry, show s.entryAt? id = s'.entryAt? id from h]
  | removeApp id =>
    cases hx
    have hsame : s.appAt? id = s'.appAt? id := h
    simp only [Store.step, removeApp, hsame]
    cases s'.appAt? id <;> rfl
  | removeEntry id =>
    cases hx
    have hsame : s.entryAt? id = s'.entryAt? id := h
    simp only [Store.step, removeEntry, hsame]
    cases s'.entryAt? id <;> rfl
  | _ => cases hx

/-- a change or a removal leaves every other record as it is -/
theorem sameAt_step (hx : x.subject? = some z) (hne : z ≠ w) (s : Store) (t : Instant) : SameAt (s.step t x).2 s w := by
  obtain ⟨hedit, hedit', htarget, htarget'⟩ := Operation.acts_of_subject hx
  cases w with
  | app id =>
    have hshelf := appShelf_step s t x
    show (s.step t x).2.appShelf.records.find? _ = _
    rw [hshelf]
    exact Shelf.find?_step appKind hedit (fun h => hne ((htarget id).1 h)) s.appShelf t
  | entry id =>
    have hshelf := entryShelf_step s t x
    show (s.step t x).2.entryShelf.records.find? _ = _
    rw [hshelf]
    exact Shelf.find?_step entryKind hedit' (fun h => hne ((htarget' id).1 h)) s.entryShelf t

/-- changes and removals of different records can be made in either order -/
theorem store_comm (hx : x.subject? = some z) (hy : y.subject? = some w) (hne : z ≠ w) (s : Store) (t t' : Instant) :
    ((s.step t x).2.step t' y).2 = ((s.step t' y).2.step t x).2 := by
  obtain ⟨hedit, hedit', htarget, htarget'⟩ := Operation.acts_of_subject hx
  obtain ⟨kedit, kedit', ktarget, ktarget'⟩ := Operation.acts_of_subject hy
  have happs : x.onApps.Apart y.onApps := fun n hn hk => hne (((htarget n).1 hn).trans ((ktarget n).1 hk).symm)
  have hentries : x.onEntries.Apart y.onEntries := fun n hn hk => hne (((htarget' n).1 hn).trans ((ktarget' n).1 hk).symm)
  apply eq_of_shelves
  · simp only [appShelf_step]
    exact Shelf.step_comm appKind hedit kedit happs s.appShelf t t'
  · simp only [entryShelf_step]
    exact Shelf.step_comm entryKind hedit' kedit' hentries s.entryShelf t t'

end

theorem changeApp_changeApp (s : Store) (id : Int) (p q : AppPatch) (t t' t'' : Instant) :
    (s.step t (.changeApp id p)).2.step t' (.changeApp id q) = s.step t'' (.changeApp id (p.overlay q)) := by
  refine Prod.ext ?_ (eq_of_shelves ?_ ?_)
  · rw [answer_changeApp, answer_changeApp, appAt?_changeApp, Option.map_map]
    simp only [Function.comp_def, SavedApp.patched_patched]
  · simp only [appShelf_step]
    exact Shelf.step_change_change appKind (fun a => a.patched_patched p q) s.appShelf id t t' t''
  · simp only [entryShelf_step]
    rfl

theorem changeEntry_changeEntry (s : Store) (id : Int) (p q : EntryPatch) (t t' t'' : Instant) :
    (s.step t (.changeEntry id p)).2.step t' (.changeEntry id q) = s.step t'' (.changeEntry id (p.overlay q)) := by
  refine Prod.ext ?_ (eq_of_shelves ?_ ?_)
  · rw [answer_changeEntry, answer_changeEntry, entryAt?_changeEntry, Option.map_map]
    simp only [Function.comp_def, Entry.patched_patched]
  · simp only [appShelf_step]
    rfl
  · simp only [entryShelf_step]
    exact Shelf.step_change_change entryKind (fun e => e.patched_patched p q) s.entryShelf id t t' t''

/-- how the changes of one kind of records go together -/
structure Composes {π : Type} (change : Int → π → Operation) (overlay : π → π → π)
    (read : Json.Value → Check.Reading π) : Prop where
  /-- two changes of one number are one, the second laid over the first, in the store they leave and in the last answer -/
  compose : ∀ (s : Store) (id : Int) (p q : π) (t t' t'' : Instant),
    (s.step t (change id p)).2.step t' (change id q) = s.step t'' (change id (overlay p q))
  /-- a change that is made twice is made once -/
  idempotent : ∀ (s : Store) (id : Int) (p : π) (t t' : Instant),
    (s.step t (change id p)).2.step t' (change id p) = s.step t (change id p)
  /-- so do the bodies that changes are read from: one laid over the other, key by key, is read as both changes -/
  overlay_read : ∀ (u v : Json.Members) (p q : π), (v.map Prod.fst).Nodup → read (.object u) = .ok p →
    read (.object v) = .ok q → read (.object (u.overlay v)) = .ok (overlay p q)

/-- **Changes compose.** Two changes of one number, present or absent, are one change with the second laid over the first: a
part is what the second gives, or else what the first gives, or else as it was. A change made twice is made once. Changes and
removals of different applications and entries can be made in either order: the store is the same after both, and each
answers as if it were made alone. -/
theorem changes_compose :
    Composes .changeApp AppPatch.overlay Check.appPatch ∧ Composes .changeEntry EntryPatch.overlay Check.entryPatch ∧
      (∀ (s : Store) (id : Int) (a : SavedApp) (p q : AppPatch) (t : Instant), s.appAt? id = some a →
        (s.step t (.changeApp id (p.overlay q))).1 = .app (some ⟨a.id, (q.name.or p.name).getD a.name,
          (q.description.or p.description).getD a.description, (q.code.or p.code).getD a.code, a.created⟩)) ∧
      (∀ (s : Store) (id : Int) (e : Entry) (p q : EntryPatch) (t : Instant), s.entryAt? id = some e →
        (s.step t (.changeEntry id (p.overlay q))).1 = .entry (some ⟨e.id, e.appId,
          (q.modelName.or p.modelName).getD e.modelName, (q.data.or p.data).getD e.data, e.created⟩)) ∧
      ∀ (s : Store) (x y : Operation) (z w : Subject) (t t' : Instant), x.subject? = some z → y.subject? = some w → z ≠ w →
        ((s.step t x).2.step t' y).2 = ((s.step t' y).2.step t x).2 ∧
          ((s.step t' y).2.step t x).1 = (s.step t x).1 ∧ ((s.step t x).2.step t' y).1 = (s.step t' y).1 := by
  refine ⟨⟨changeApp_changeApp, ?_, ?_⟩, ⟨changeEntry_changeEntry, ?_, ?_⟩, ?_, ?_, ?_⟩
  · intro s id p t t'
    rw [changeApp_changeApp s id p p t t' t, p.overlay_self]
  · intro u v p q hkeys hu hv
    exact Check.appPatch_overlay hkeys hu hv
  · intro s id p t t'
    rw [changeEntry_changeEntry s id p p t t' t, p.overlay_self]
  · intro u v p q hkeys hu hv
    exact Check.entryPatch_overlay hkeys hu hv
  · intro s id a p q t ha
    rw [answer_changeApp, ha, Option.map_some]
    simp only [SavedApp.patched, AppPatch.overlay, Option.orElse_eq_orElse, Option.orElse_eq_or]
  · intro s id e p q t he
    rw [answer_changeEntry, he, Option.map_some]
    simp only [Entry.patched, EntryPatch.overlay, Option.orElse_eq_orElse, Option.orElse_eq_or]
  · intro s x y z w t t' hx hy hne
    exact ⟨store_comm hx hy hne s t t', answer_congr hx (sameAt_step hy hne.symm s t') t t,
      answer_congr hy (sameAt_step hx hne s t) t' t'⟩

/-- two applications, the first with a description -/
def twoApps : Store := ⟨[⟨1, "one", some "first", "", ⟨0, 0⟩⟩, ⟨2, "two", none, "", ⟨1, 0⟩⟩], [], 3, 1⟩

/-- a description that is taken away stays away when a name is given later; and the second application can be removed before
or after -/
theorem changes_compose_clearing :
    Check.appPatch (.object (Json.Members.overlay [("description", .null), ("name", .text "a")] [("name", .text "b")])) =
        .ok ⟨some "b", some none, none⟩ ∧
      (twoApps.step ⟨2, 0⟩ (.changeApp 1 (AppPatch.overlay ⟨some "a", some none, none⟩ ⟨some "b", none, none⟩))).1 =
        .app (some ⟨1, "b", none, "", ⟨0, 0⟩⟩) ∧
      ((twoApps.step ⟨2, 0⟩ (.changeApp 1 ⟨some "b", some none, none⟩)).2.step ⟨3, 0⟩ (.removeApp 2)).2 =
        ((twoApps.step ⟨3, 0⟩ (.removeApp 2)).2.step ⟨2, 0⟩ (.changeApp 1 ⟨some "b", some none, none⟩)).2 :=
  ⟨changes_compose.1.overlay_read _ _ ⟨some "a", some none, none⟩ ⟨some "b", none, none⟩ (by decide) rfl rfl,
    changes_compose.2.2.1 twoApps 1 _ _ _ _ rfl,
    (changes_compose.2.2.2.2 twoApps _ _ (.app 1) (.app 2) _ _ rfl rfl (by decide)).1⟩

end Store

end Pagewright
