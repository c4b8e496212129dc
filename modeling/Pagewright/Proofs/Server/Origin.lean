/-
Where stored records come from. Every record that is there after some requests was made by one of them, at a place in the
sequence that its number determines (`ShelfView.exists_makes`, `ShelfView.Makes.unique`). An entry is made only while its
application is there, so the request that saved the application comes before the one that made the entry, and no other
request ever saves an application under that number: entries never come to belong to another application
(`entries_stay_with_app`).

Both kinds of records have the same history; `ShelfView` is what the two have in common.
-/
import Pagewright.Proofs.Server.Failure

namespace Pagewright.Server

open Store (Operation Act RecordKind SavedApp Entry AppDraft AppPatch EntryDraft EntryPatch)

/-! ## Places in a sequence of requests -/

abbrev Requests := List (Instant × Request)

/-- the store before the request at a place, and after the last one beyond the end -/
def storeAt (host : Host) (o : Options) (rs : Requests) (i : Nat) : Store := serve host o .empty (rs.take i)

/-- the request at a place performs an operation, at a time -/
def Performs (host : Host) (o : Options) (rs : Requests) (i : Nat) (t : Instant) (op : Operation) : Prop :=
  ∃ r, rs[i]? = some (t, r) ∧ Effect host (storeAt host o rs i) r op

variable {host : Host} {o : Options} {rs : Requests}

theorem storeAt_length (host : Host) (o : Options) (rs : Requests) :
    storeAt host o rs rs.length = serve host o .empty rs := by
  rw [storeAt, List.take_length]

theorem storeAt_succ {i : Nat} {t : Instant} {r : Request} (h : rs[i]? = some (t, r)) :
    storeAt host o rs (i + 1) = (handle host o t (storeAt host o rs i) r).2 := by
  rw [storeAt, List.take_add_one, h]
  simp only [serve, storeAt, Option.toList_some, List.foldl_append, List.foldl_cons, List.foldl_nil]

theorem Performs.storeAt_succ {i : Nat} {t : Instant} {op : Operation} (h : Performs host o rs i t op) :
    storeAt host o rs (i + 1) = ((storeAt host o rs i).step t op).2 := by
  obtain ⟨r, hr, heffect⟩ := h
  rw [Server.storeAt_succ hr, handle_of_effect heffect, performed]

/-- from one place to the next the store stays as it is, or the request there performs one operation -/
theorem storeAt_cases (host : Host) (o : Options) (rs : Requests) (i : Nat) :
    storeAt host o rs (i + 1) = storeAt host o rs i ∨
      ∃ t op, Performs host o rs i t op ∧ storeAt host o rs (i + 1) = ((storeAt host o rs i).step t op).2 := by
  cases hr : rs[i]? with
  | none =>
    left
    rw [storeAt, List.take_add_one, hr, Option.toList_none, List.append_nil, storeAt]
  | some x =>
    obtain ⟨t, r⟩ := x
    rcases handle_cases host o t (storeAt host o rs i) r with hkept | ⟨op, heffect, -⟩
    · left
      rw [storeAt_succ hr, hkept]
    · right
      have hperforms : Performs host o rs i t op := ⟨r, hr, heffect⟩
      exact ⟨t, op, hperforms, hperforms.storeAt_succ⟩

/-- what was performed stays so, whatever is requested after it -/
theorem Performs.append {i : Nat} {t : Instant} {op : Operation} (h : Performs host o rs i t op) (more : Requests) :
    Performs host o (rs ++ more) i t op ∧ storeAt host o (rs ++ more) i = storeAt host o rs i := by
  obtain ⟨r, hr, heffect⟩ := h
  have hlt : i < rs.length := (List.getElem?_eq_some_iff.1 hr).1
  have hstore : storeAt host o (rs ++ more) i = storeAt host o rs i := by
    rw [storeAt, List.take_append_of_le_length hlt.le, storeAt]
  refine ⟨⟨r, ?_, ?_⟩, hstore⟩
  · rw [List.getElem?_append_left hlt, hr]
  · rw [hstore]
    exact heffect

/-! ## Records of one kind -/

/-- one of the two shelves of a store: what an operation does to it, and which operation makes a record on it -/
structure ShelfView (α δ π : Type) where
  kind : RecordKind α δ π
  shelf : Store → Store.Shelf α
  act : Operation → Act δ π
  making : δ → Operation
  shelf_empty : shelf .empty = Store.Shelf.empty
  shelf_step : ∀ s t op, shelf (s.step t op).2 = (shelf s).step kind t (act op)
  act_eq_make : ∀ op d, act op = .make d ↔ op = making d

def appView : ShelfView SavedApp AppDraft AppPatch where
  kind := Store.appKind
  shelf := Store.appShelf
  act := Operation.onApps
  making := .addApp
  shelf_empty := rfl
  shelf_step := Store.appShelf_step
  act_eq_make op d := by cases op <;> simp [Operation.onApps]

def entryView : ShelfView Entry EntryDraft EntryPatch where
  kind := Store.entryKind
  shelf := Store.entryShelf
  act := Operation.onEntries
  making := .addEntry
  shelf_empty := rfl
  shelf_step := Store.entryShelf_step
  act_eq_make op d := by cases op <;> simp [Operation.onEntries]

namespace ShelfView

variable {α δ π : Type} (V : ShelfView α δ π)

/-- the request at a place makes a record of a draft, at a time and under a number -/
def Makes (host : Host) (o : Options) (rs : Requests) (i : Nat) (t : Instant) (n : Nat) (d : δ) : Prop :=
  Performs host o rs i t (V.making d) ∧ n = (V.shelf (storeAt host o rs i)).next

/-- every record was made by an earlier request, and what changes leave alone is as it was made -/
theorem exists_makes {i : Nat} {b : α} (hb : b ∈ (V.shelf (storeAt host o rs i)).records) :
    ∃ k < i, ∃ t n d, V.Makes host o rs k t n d ∧
      ∀ {κ : Type} (f : α → κ), (∀ a p, f (V.kind.patched a p) = f a) → f b = f (V.kind.make n t d) := by
  induction i generalizing b with
  | zero =>
    have hempty : (V.shelf (storeAt host o rs 0)).records = [] := congrArg Store.Shelf.records V.shelf_empty
    rw [hempty] at hb
    cases hb
  | succ i ih =>
    rcases storeAt_cases host o rs i with hkept | ⟨t, op, hperforms, hstep⟩
    · rw [hkept] at hb
      obtain ⟨k, hk, hmakes⟩ := ih hb
      exact ⟨k, Nat.lt_succ_of_lt hk, hmakes⟩
    · rw [hstep, V.shelf_step, Store.Shelf.mem_records_step] at hb
      rcases hb with ⟨a, ha, hfate⟩ | ⟨d, hmake, rfl⟩
      · obtain ⟨k, hk, u, n, d, hmakes, hsame⟩ := ih ha
        refine ⟨k, Nat.lt_succ_of_lt hk, u, n, d, hmakes, ?_⟩
        intro κ f hf
        exact (V.kind.fate_kept hf hfate).trans (hsame f hf)
      · rw [(V.act_eq_make op d).1 hmake] at hperforms
        exact ⟨i, Nat.lt_succ_self i, t, _, d, ⟨hperforms, rfl⟩, fun _ _ => rfl⟩

/-- the next number never falls -/
theorem monotone_next (host : Host) (o : Options) (rs : Requests) :
    Monotone fun i => (V.shelf (storeAt host o rs i)).next := by
  apply monotone_nat_of_le_succ
  intro i
  rcases storeAt_cases host o rs i with hkept | ⟨t, op, -, hstep⟩
  · rw [hkept]
  · rw [hstep, V.shelf_step, Store.Shelf.next_step]
    exact Nat.le_add_right _ _

variable {V}

theorem Makes.append {i : Nat} {t : Instant} {n : Nat} {d : δ} (h : V.Makes host o rs i t n d) (more : Requests) :
    V.Makes host o (rs ++ more) i t n d := by
  obtain ⟨hperforms, hn⟩ := h
  obtain ⟨hlater, hstore⟩ := hperforms.append more
  refine ⟨hlater, ?_⟩
  rw [hstore]
  exact hn

/-- after a record was made, the next number is above its own -/
theorem Makes.lt_next {i j : Nat} {t : Instant} {n : Nat} {d : δ} (h : V.Makes host o rs i t n d) (hij : i < j) :
    n < (V.shelf (storeAt host o rs j)).next := by
  obtain ⟨hperforms, hn⟩ := h
  have hact : V.act (V.making d) = .make d := (V.act_eq_make _ d).2 rfl
  calc
    n < (V.shelf (storeAt host o rs i)).next + 1 := Nat.lt_succ_of_le hn.le
    _ = (V.shelf (storeAt host o rs (i + 1))).next := by
      rw [hperforms.storeAt_succ, V.shelf_step, hact]
      rfl
    _ ≤ (V.shelf (storeAt host o rs j)).next := V.monotone_next host o rs hij

/-- a number is given at one place only -/
theorem Makes.unique {i j : Nat} {t u : Instant} {n : Nat} {d e : δ} (h : V.Makes host o rs i t n d)
    (h' : V.Makes host o rs j u n e) : i = j := by
  rcases Nat.lt_trichotomy i j with hij | hij | hij
  · exact absurd h'.2 (h.lt_next hij).ne
  · exact hij
  · exact absurd h.2 (h'.lt_next hij).ne

end ShelfView

/-! ## Applications and entries -/

/-- an application is what became of one that was saved -/
theorem exists_saved {i : Nat} {b : SavedApp} (hb : b ∈ (storeAt host o rs i).apps) :
    ∃ k < i, ∃ d, appView.Makes host o rs k b.created b.id d := by
  obtain ⟨k, hk, t, n, d, hmakes, hsame⟩ := appView.exists_makes (i := i) (b := b) hb
  have hid : b.id = n := hsame SavedApp.id fun _ _ => rfl
  have hcreated : b.created = t := hsame SavedApp.created fun _ _ => rfl
  rw [hid, hcreated]
  exact ⟨k, hk, d, hmakes⟩

/-- an entry is what became of one that was made, for the same application -/
theorem exists_made {i : Nat} {e : Entry} (he : e ∈ (storeAt host o rs i).entries) :
    ∃ k < i, ∃ d, entryView.Makes host o rs k e.created e.id d ∧ d.appId = e.appId := by
  obtain ⟨k, hk, t, n, d, hmakes, hsame⟩ := entryView.exists_makes (i := i) (b := e) he
  have hid : e.id = n := hsame Entry.id fun _ _ => rfl
  have hcreated : e.created = t := hsame Entry.created fun _ _ => rfl
  have happ : e.appId = d.appId := hsame Entry.appId fun _ _ => rfl
  rw [hid, hcreated]
  exact ⟨k, hk, d, hmakes, happ.symm⟩

/-- what one request makes belongs to one application -/
theorem appId_eq_of_performs {i : Nat} {t u : Instant} {d e : EntryDraft} (h : Performs host o rs i t (.addEntry d))
    (h' : Performs host o rs i u (.addEntry e)) : d.appId = e.appId := by
  have hstores := h.storeAt_succ.symm.trans h'.storeAt_succ
  have hentries := congrArg Store.entries hstores
  simp only [Store.step, Store.addEntry, List.append_cancel_left_eq, List.cons.injEq, Entry.mk.injEq] at hentries
  exact hentries.1.2.1

/-- an entry is made only for an application that is there -/
theorem exists_app_of_performs {i : Nat} {t : Instant} {d : EntryDraft} (h : Performs host o rs i t (.addEntry d)) :
    ∃ b ∈ (storeAt host o rs i).apps, (b.id : Int) = d.appId := by
  obtain ⟨r, -, heffect⟩ := h
  cases heffect with
  | addEntry hleads hsent hfound =>
    exact ⟨_, List.mem_of_find?_eq_some hfound, by simpa using List.find?_some hfound⟩

/-- the entry with a number belongs to the same application in every store where there is one -/
theorem appId_kept {e f : Entry} {more : Requests} (he : e ∈ (serve host o .empty rs).entries)
    (hf : f ∈ (serve host o .empty (rs ++ more)).entries) (hid : f.id = e.id) : f.appId = e.appId := by
  rw [← storeAt_length] at he hf
  obtain ⟨i, -, d, hd, hde⟩ := exists_made he
  obtain ⟨j, -, c, hc, hcf⟩ := exists_made hf
  rw [hid] at hc
  have hlater := hd.append more
  obtain rfl := hlater.unique hc
  calc
    f.appId = c.appId := hcf.symm
    _ = d.appId := appId_eq_of_performs hc.1 hlater.1
    _ = e.appId := hde

/-- the answer to a look at the entries of an application -/
theorem handle_entriesOf {now : Instant} {s : Store} {r : Request} {id model : String} {a : Int}
    (hleads : Leads host r .get (.entriesOf id model)) (hid : pathNumber "app_id" id = .ok a) :
    handle host o now s r =
      (shownResponse 200 (Store.shownItems? host.shown? ((s.entriesOf a model).map Entry.toValue)), s) := by
  simp only [handle_of_leads hleads, answer, hid, whenRead]

/-- an entry has stayed with the application it was made for: the request at one place saved the application, and the
request at a later place made the entry -/
structure StaysWith (host : Host) (o : Options) (rs : Requests) (e : Entry) (a : Int) (saved made : Nat) : Prop where
  before : saved < made
  /-- the entry was made for this application -/
  entry : ∃ d, entryView.Makes host o rs made e.created e.id d ∧ d.appId = a
  /-- the application was there when the entry was made -/
  then_there : ∃ b ∈ (storeAt host o rs made).apps, (b.id : Int) = a ∧ ∃ d, appView.Makes host o rs saved b.created b.id d
  /-- what has the number of the application now, if anything, was saved by the same request -/
  now_there : ∀ b ∈ (serve host o .empty rs).apps, (b.id : Int) = a → ∃ d, appView.Makes host o rs saved b.created b.id d
  /-- no other request saves an application under this number -/
  only : ∀ i t d, ∀ n : Nat, (n : Int) = a → appView.Makes host o rs i t n d → i = saved
  /-- whatever is requested later, the entry belongs to this application -/
  later : ∀ more, ∀ f ∈ (serve host o .empty (rs ++ more)).entries, f.id = e.id → f.appId = a

/-- an entry that is there has stayed with its application -/
theorem exists_staysWith {e : Entry} (he : e ∈ (serve host o .empty rs).entries) :
    ∃ saved made, StaysWith host o rs e e.appId saved made := by
  have hthere := he
  rw [← storeAt_length] at hthere
  obtain ⟨made, -, d, hmade, hd⟩ := exists_made hthere
  obtain ⟨b, hb, hbid⟩ := exists_app_of_performs hmade.1
  rw [hd] at hbid
  obtain ⟨saved, hlt, c, hsaved⟩ := exists_saved hb
  have honly : ∀ i t d, ∀ n : Nat, (n : Int) = e.appId → appView.Makes host o rs i t n d → i = saved := by
    intro i t d n hn hmakes
    have hnb : n = b.id := by omega
    rw [hnb] at hmakes
    exact hmakes.unique hsaved
  refine ⟨saved, made, hlt, ⟨d, hmade, hd⟩, ⟨b, hb, hbid, c, hsaved⟩, ?_, honly, ?_⟩
  · intro b' hb' hid'
    rw [← storeAt_length] at hb'
    obtain ⟨k, -, d', hmakes⟩ := exists_saved hb'
    obtain rfl := honly k _ _ _ hid' hmakes
    exact ⟨d', hmakes⟩
  · intro more f hf hfe
    exact appId_kept he hf hfe

/-- **Entries stay with their application.** After any requests from nothing, every entry that is listed for an application
was made by a request for that application while it was there. The request that saved the application comes before that one
and is the only one that saves an application under this number, so the application that has the number then and the one that
has it now, if there is one, come from the same request. Whatever is requested later, the entry belongs to the same
application. -/
theorem entries_stay_with_app (host : Host) (o : Options) (rs : Requests) (now : Instant) {r : Request} {id model : String}
    {a : Int} (hleads : Leads host r .get (.entriesOf id model)) (hid : pathNumber "app_id" id = .ok a) :
    ∃ es : List Entry, handle host o now (serve host o .empty rs) r =
        (shownResponse 200 (Store.shownItems? host.shown? (es.map Entry.toValue)), serve host o .empty rs) ∧
      ∀ e ∈ es, e.appId = a ∧ e.modelName = model ∧ ∃ saved made, StaysWith host o rs e a saved made := by
  refine ⟨_, handle_entriesOf hleads hid, ?_⟩
  intro e he
  obtain ⟨hmem, rfl, hmodel⟩ := Store.mem_entriesOf.1 he
  exact ⟨rfl, hmodel, exists_staysWith hmem⟩

/-- an application is saved, an entry is made for it, the application is removed, and another one is saved -/
def resaving : Requests :=
  [(⟨0, 0⟩, savingRequest), (⟨1, 0⟩, ⟨.post, "/api/data", some "\x7b\"app_id\":1,\"model_name\":\"m\",\"data\":\x7b\x7d\x7d"⟩),
    (⟨2, 0⟩, ⟨.delete, "/api/apps/1", none⟩), (⟨3, 0⟩, savingRequest)]

/-- the entry of the removed application is still listed for it, and the application saved later has another number -/
theorem entries_stay_with_app_resaving :
    Leads .usual ⟨.get, "/api/apps/1/data/m", none⟩ .get (.entriesOf "1" "m") ∧ pathNumber "app_id" "1" = .ok 1 ∧
      ((serve .usual .standard .empty resaving).entriesOf 1 "m").length = 1 ∧
      (serve .usual .standard .empty resaving).apps.map SavedApp.id = [2] ∧
      ∃ es : List Entry,
        handle .usual .standard ⟨4, 0⟩ (serve .usual .standard .empty resaving) ⟨.get, "/api/apps/1/data/m", none⟩ =
          (shownResponse 200 (Store.shownItems? Host.usual.shown? (es.map Entry.toValue)),
            serve .usual .standard .empty resaving) ∧
        ∀ e ∈ es, e.appId = 1 ∧ e.modelName = "m" ∧ ∃ saved made, StaysWith .usual .standard resaving e 1 saved made := by
  have hleads : Leads .usual ⟨.get, "/api/apps/1/data/m", none⟩ .get (.entriesOf "1" "m") := ⟨rfl, by decide +kernel⟩
  have hid : pathNumber "app_id" "1" = .ok 1 := by decide +kernel
  obtain ⟨hlisted, happs⟩ : ((serve .usual .standard .empty resaving).entriesOf 1 "m").length = 1 ∧
      (serve .usual .standard .empty resaving).apps.map SavedApp.id = [2] := by decide +kernel
  exact ⟨hleads, hid, hlisted, happs, entries_stay_with_app .usual .standard resaving ⟨4, 0⟩ hleads hid⟩

end Pagewright.Server
