/-
What stored records look like. Whatever was requested, every record that is there would pass the check of a record to be
made: written as data and read as a draft, it is the draft it could have been made of (`stored_records_fit`). A change keeps
this because a patch is checked like a draft, part by part, where a part that is absent leaves the record alone and null is
no name, no source, no model and no data (`AppMerged`, `EntryMerged`).
-/
import Pagewright.Proofs.Check.Reading
import Pagewright.Proofs.Server.Origin

namespace Pagewright.Server

open Json (Value Members)
open Check (Reading)
open Check.Reading
open Store (Operation SavedApp Entry AppDraft AppPatch EntryDraft EntryPatch)

/-! ## Members of a body and parts of a record -/

/-- the member of a body with a key is applied to a part of a record: when it is absent the part stays as it was, and when it
is there it is what the part has become -/
def Applied {κ : Type} (ms : Members) (key : String) (write : κ → Value) (before after : κ) : Prop :=
  match ms.get? key with
  | none => after = before
  | some v => v = write after

/-- an application after its change by the members of a body -/
structure AppMerged (ms : Members) (a b : SavedApp) : Prop where
  id : b.id = a.id
  created : b.created = a.created
  name : Applied ms "name" .ofString a.name b.name
  description : Applied ms "description" (fun d => .ofOption (d.map .text)) a.description b.description
  code : Applied ms "code" .text a.code b.code
  not_null : ms.get? "name" ≠ some .null ∧ ms.get? "code" ≠ some .null

/-- an entry after its change by the members of a body -/
structure EntryMerged (ms : Members) (e f : Entry) : Prop where
  id : f.id = e.id
  appId : f.appId = e.appId
  created : f.created = e.created
  modelName : Applied ms "model_name" .ofString e.modelName f.modelName
  data : Applied ms "data" .object e.data f.data
  not_null : ms.get? "model_name" ≠ some .null ∧ ms.get? "data" ≠ some .null

theorem applied_getD {κ : Type} {ms : Members} {key : String} {write : κ → Value} {x : Option κ}
    (h : ms.get? key = x.map write) (before : κ) : Applied ms key write before (x.getD before) := by
  unfold Applied
  rw [h]
  cases x <;> rfl

theorem appMerged_patched {ms : Members} {p : AppPatch} (h : Check.appPatch (.object ms) = .ok p) (a : SavedApp) :
    AppMerged ms a (a.patched p) := by
  obtain ⟨_, hms, ⟨hname, -⟩, hdescription, hcode⟩ := Check.appPatch_eq_ok.1 h
  cases hms
  refine ⟨rfl, rfl, applied_getD hname _, applied_getD hdescription _, applied_getD hcode _, ?_⟩
  rw [hname, hcode]
  exact ⟨Check.map_ofString_ne_null _, Check.map_text_ne_null _⟩

theorem entryMerged_patched {ms : Members} {p : EntryPatch} (h : Check.entryPatch (.object ms) = .ok p) (e : Entry) :
    EntryMerged ms e (e.patched p) := by
  obtain ⟨_, hms, ⟨hname, -⟩, hdata⟩ := Check.entryPatch_eq_ok.1 h
  cases hms
  refine ⟨rfl, rfl, rfl, applied_getD hname _, applied_getD hdata _, ?_⟩
  rw [hname, hdata]
  refine ⟨Check.map_ofString_ne_null _, ?_⟩
  cases p.data <;> simp

/-! ## Records that could have been made as they are -/

/-- an application written as data and read as a draft is itself, unless it has no name -/
theorem appDraft_toValue {a : SavedApp} (h : a.name ≠ "") :
    Check.appDraft a.toValue = .ok ⟨a.name, a.description, a.code⟩ :=
  Check.appDraft_eq_ok.2 ⟨_, rfl, rfl, h, rfl, rfl⟩

/-- an entry written as data and read as a draft is itself, unless its model has no name -/
theorem entryDraft_toValue {e : Entry} (h : e.modelName ≠ "") :
    Check.entryDraft e.toValue = .ok ⟨e.appId, e.modelName, e.data⟩ :=
  Check.entryDraft_eq_ok.2 ⟨_, rfl, rfl, rfl, h, rfl⟩

/-- a body that is read as a record is an object, and its members are read -/
theorem bodyAs_eq_ok {α : Type} {read : Value → Reading α} {b : Body} {a : α} :
    bodyAs read b = .ok a ↔ ∃ ms, b = .value (.object ms) ∧ read (.object ms) = .ok a := by
  cases b with
  | absent => simp [bodyAs]
  | value v => cases v <;> simp [bodyAs]

theorem numberAndBody_eq_ok {α : Type} {name id : String} {read : Value → Reading α} {b : Body} {n : Int} {a : α} :
    numberAndBody name id read b = .ok (n, a) ↔ pathNumber name id = .ok n ∧ bodyAs read b = .ok a := by
  simp only [numberAndBody, andAlso_eq_ok, into_eq_ok]
  constructor
  · rintro ⟨f, c, ⟨m, hm, rfl⟩, hc, hpair⟩
    cases hpair
    exact ⟨hm, hc⟩
  · rintro ⟨hn, ha⟩
    exact ⟨_, _, ⟨n, hn, rfl⟩, ha, rfl⟩

section

variable {host : Host} {s : Store} {r : Request}

/-- an application is made with a name -/
theorem Effect.draft_name {d : AppDraft} (h : Effect host s r (.addApp d)) : d.name ≠ "" := by
  cases h with
  | addApp hleads hsent =>
    obtain ⟨b, -, hread⟩ := hsent
    obtain ⟨ms, -, hdraft⟩ := bodyAs_eq_ok.1 hread
    obtain ⟨_, -, -, hname, -⟩ := Check.appDraft_eq_ok.1 hdraft
    exact hname

/-- an entry is made for a model with a name -/
theorem Effect.draft_modelName {d : EntryDraft} (h : Effect host s r (.addEntry d)) : d.modelName ≠ "" := by
  cases h with
  | addEntry hleads hsent hfound =>
    obtain ⟨b, -, hread⟩ := hsent
    obtain ⟨ms, -, hdraft⟩ := bodyAs_eq_ok.1 hread
    obtain ⟨_, -, -, -, hname, -⟩ := Check.entryDraft_eq_ok.1 hdraft
    exact hname

/-- a change of an application is sent as the members of a body -/
theorem Effect.sends_appPatch {n : Int} {p : AppPatch} (h : Effect host s r (.changeApp n p)) :
    ∃ id ms x, Leads host r .put (.app id) ∧ pathNumber "app_id" id = .ok n ∧
      readBody host.room r.body = .ok (.value (.object ms)) ∧ Check.appPatch (.object ms) = .ok p ∧
      s.appAt? n = some x := by
  cases h with
  | changeApp hleads hsent hfound =>
    obtain ⟨b, hbody, hread⟩ := hsent
    obtain ⟨hn, hrecord⟩ := numberAndBody_eq_ok.1 hread
    obtain ⟨ms, rfl, hpatch⟩ := bodyAs_eq_ok.1 hrecord
    exact ⟨_, ms, _, hleads, hn, hbody, hpatch, hfound⟩

/-- a change of an entry is sent as the members of a body -/
theorem Effect.sends_entryPatch {n : Int} {p : EntryPatch} (h : Effect host s r (.changeEntry n p)) :
    ∃ id ms x, Leads host r .put (.entry id) ∧ pathNumber "data_id" id = .ok n ∧
      readBody host.room r.body = .ok (.value (.object ms)) ∧ Check.entryPatch (.object ms) = .ok p ∧
      s.entryAt? n = some x := by
  cases h with
  | changeEntry hleads hsent hfound =>
    obtain ⟨b, hbody, hread⟩ := hsent
    obtain ⟨hn, hrecord⟩ := numberAndBody_eq_ok.1 hread
    obtain ⟨ms, rfl, hpatch⟩ := bodyAs_eq_ok.1 hrecord
    exact ⟨_, ms, _, hleads, hn, hbody, hpatch, hfound⟩

end

/-- a patch gives a name only if it is one -/
theorem getD_ne_empty {x : Option String} {s : String} (hx : x ≠ some "") (hs : s ≠ "") : x.getD s ≠ "" := by
  cases x with
  | none => exact hs
  | some t => simpa using hx

/-! ## Every record that is there -/

namespace ShelfView

variable {α δ π : Type} (V : ShelfView α δ π) (host : Host) (o : Options) (rs : Requests)

/-- what holds of a record as it is made, and still holds when a request changes it, holds of every record -/
theorem forall_records {P : α → Prop} (hmake : ∀ i t d n, Performs host o rs i t (V.making d) → P (V.kind.make n t d))
    (hchange : ∀ i t op n p b, Performs host o rs i t op → V.act op = .change n p → P b → P (V.kind.patched b p)) (i : Nat) :
    ∀ b ∈ (V.shelf (storeAt host o rs i)).records, P b := by
  induction i with
  | zero =>
    intro b hb
    have hempty : (V.shelf (storeAt host o rs 0)).records = [] := congrArg Store.Shelf.records V.shelf_empty
    rw [hempty] at hb
    cases hb
  | succ i ih =>
    intro b hb
    rcases storeAt_cases host o rs i with hkept | ⟨t, op, hperforms, hstep⟩
    · rw [hkept] at hb
      exact ih b hb
    · rw [hstep, V.shelf_step, Store.Shelf.mem_records_step] at hb
      rcases hb with ⟨a, ha, hfate⟩ | ⟨d, hact, rfl⟩
      · rcases V.kind.fate_cases hfate with rfl | ⟨n, p, hact, rfl⟩
        · exact ih b ha
        · exact hchange i t op n p a hperforms hact (ih a ha)
      · rw [(V.act_eq_make op d).1 hact] at hperforms
        exact hmake i t d _ hperforms

/-- the numbers of the records rise, whatever was requested -/
theorem ordered (i : Nat) : Store.Shelf.Ordered V.kind (V.shelf (storeAt host o rs i)) := by
  induction i with
  | zero =>
    have hempty : V.shelf (storeAt host o rs 0) = Store.Shelf.empty := V.shelf_empty
    rw [hempty]
    exact Store.Shelf.ordered_empty V.kind
  | succ i ih =>
    rcases storeAt_cases host o rs i with hkept | ⟨t, op, -, hstep⟩
    · rw [hkept]
      exact ih
    · rw [hstep, V.shelf_step]
      exact Store.Shelf.ordered_step V.kind ih t _

end ShelfView

section

variable {host : Host} {o : Options} {rs : Requests}

theorem app_name_ne_empty {i : Nat} {b : SavedApp} (hb : b ∈ (storeAt host o rs i).apps) : b.name ≠ "" := by
  refine appView.forall_records host o rs (P := fun b => b.name ≠ "") ?_ ?_ i b hb
  · intro k t d n hperforms
    obtain ⟨r, -, heffect⟩ := hperforms
    exact heffect.draft_name
  · intro k t op n p c hperforms hact hc
    obtain ⟨r, -, heffect⟩ := hperforms
    cases op with
    | changeApp m q =>
      cases hact
      obtain ⟨_, _, _, -, -, -, hpatch, -⟩ := heffect.sends_appPatch
      obtain ⟨_, -, ⟨-, hname⟩, -⟩ := Check.appPatch_eq_ok.1 hpatch
      exact getD_ne_empty hname hc
    | _ => cases hact

theorem entry_modelName_ne_empty {i : Nat} {e : Entry} (he : e ∈ (storeAt host o rs i).entries) : e.modelName ≠ "" := by
  refine entryView.forall_records host o rs (P := fun e => e.modelName ≠ "") ?_ ?_ i e he
  · intro k t d n hperforms
    obtain ⟨r, -, heffect⟩ := hperforms
    exact heffect.draft_modelName
  · intro k t op n p c hperforms hact hc
    obtain ⟨r, -, heffect⟩ := hperforms
    cases op with
    | changeEntry m q =>
      cases hact
      obtain ⟨_, _, _, -, -, -, hpatch, -⟩ := heffect.sends_entryPatch
      obtain ⟨_, -, ⟨-, hname⟩, -⟩ := Check.entryPatch_eq_ok.1 hpatch
      exact getD_ne_empty hname hc
    | _ => cases hact

end

/-! ## Changes -/

/-- a request is refused: the answer tells of no success, and the store is as it was -/
def Refused (s : Store) (x : Handled) : Prop := 300 ≤ x.1.status ∧ x.2 = s

/-- an outcome that a request for a change can have: it is refused or performed -/
def Settled (host : Host) (now : Instant) (s : Store) (r : Request) (x : Handled) : Prop :=
  Refused s x ∨ ∃ op, Effect host s r op ∧ x = performed host now s op

section

variable {α : Type} {host : Host} {o : Options} {now : Instant} {s : Store} {r : Request}

theorem settled_refused {a : Response} (h : 300 ≤ a.status) : Settled host now s r (a, s) := Or.inl ⟨h, rfl⟩

theorem status_issuesResponse (host : Host) (b : Body) (issues : List Check.Issue) :
    300 ≤ (issuesResponse host b issues).status := by
  unfold issuesResponse
  split_ifs
  · exact (by decide : 300 ≤ 422)
  · exact (by decide : 300 ≤ 500)

theorem status_readBody {room : Json.Room} {body : Option String} {a : Response} (h : readBody room body = .error a) :
    300 ≤ a.status := by
  cases body with
  | none => cases h
  | some text =>
    simp only [readBody] at h
    split_ifs at h
    split at h
    · cases h
    · cases h
      exact (by decide : 300 ≤ 422)
    · cases h
      exact (by decide : 300 ≤ 400)

theorem settled_whenBody {read : Body → Reading α} {f : α → Handled}
    (h : ∀ x, Sends host r read x → Settled host now s r (f x)) :
    Settled host now s r (whenBody host s r read f) := by
  cases hbody : readBody host.room r.body with
  | error a =>
    simp only [whenBody, hbody]
    exact settled_refused (status_readBody hbody)
  | ok b =>
    simp only [whenBody, hbody, whenRead]
    cases hread : read b with
    | error issues => exact settled_refused (status_issuesResponse host b issues)
    | ok x => exact h x ⟨b, hbody, hread⟩

/-- a request for a change is refused or performed -/
theorem settled_put (host : Host) (o : Options) (now : Instant) (s : Store) (hput : r.method = .put) :
    Settled host now s r (handle host o now s r) := by
  delta handle
  cases htarget : targetOf r.method (host.pathOf r.address) with
  | route route =>
    have hallows := allows_of_targetOf htarget
    rw [hput] at hallows
    cases route with
    | app id =>
      simp only [answer, hput]
      apply settled_whenBody
      intro x hsent
      obtain ⟨n, p⟩ := x
      cases hfound : s.appAt? n with
      | none =>
        simp only [Store.changeApp, hfound]
        exact settled_refused (by decide : 300 ≤ 404)
      | some a =>
        simp only [Store.changeApp, hfound]
        refine Or.inr ⟨_, .changeApp ⟨hput, htarget⟩ hsent hfound, ?_⟩
        simp only [performed, Store.step, Store.changeApp, hfound]
        rfl
    | entry id =>
      simp only [answer, hput]
      apply settled_whenBody
      intro x hsent
      obtain ⟨n, p⟩ := x
      cases hfound : s.entryAt? n with
      | none =>
        simp only [Store.changeEntry, hfound]
        exact settled_refused (by decide : 300 ≤ 404)
      | some e =>
        simp only [Store.changeEntry, hfound]
        refine Or.inr ⟨_, .changeEntry ⟨hput, htarget⟩ hsent hfound, ?_⟩
        simp only [performed, Store.step, Store.changeEntry, hfound]
        rfl
    | _ => cases hallows
  | wrongMethod => exact settled_refused (by decide : 300 ≤ 405)
  | redirect => exact settled_refused (by decide : 300 ≤ 307)
  | unknown => exact settled_refused (by decide : 300 ≤ 404)

end

/-- a request changes the application that it names by the members of its body, and nothing else -/
def ChangesApp (host : Host) (r : Request) (s t : Store) : Prop :=
  ∃ id n ms a b, Leads host r .put (.app id) ∧ pathNumber "app_id" id = .ok n ∧
    readBody host.room r.body = .ok (.value (.object ms)) ∧ s.appAt? n = some a ∧ AppMerged ms a b ∧
    t = { s with apps := s.apps.map fun c => if (c.id : Int) = n then b else c }

/-- a request changes the entry that it names by the members of its body, and nothing else -/
def ChangesEntry (host : Host) (r : Request) (s t : Store) : Prop :=
  ∃ id n ms e f, Leads host r .put (.entry id) ∧ pathNumber "data_id" id = .ok n ∧
    readBody host.room r.body = .ok (.value (.object ms)) ∧ s.entryAt? n = some e ∧ EntryMerged ms e f ∧
    t = { s with entries := s.entries.map fun c => if (c.id : Int) = n then f else c }

/-- a change touches one record, since no other has its number -/
theorem map_patched {α δ π : Type} {K : Store.RecordKind α δ π} {s : Store.Shelf α} (h : s.Ordered K) {n : Int} {a : α}
    (hfound : s.records.find? (fun b => (K.id b : Int) = n) = some a) (p : π) :
    (s.records.map fun c => if (K.id c : Int) = n then K.patched c p else c) =
      s.records.map fun c => if (K.id c : Int) = n then K.patched a p else c := by
  apply List.map_congr_left
  intro c hc
  by_cases hn : (K.id c : Int) = n
  · have hsame := (h.find?_number n c).2 ⟨hc, hn⟩
    rw [hfound, Option.some.injEq] at hsame
    rw [if_pos hn, if_pos hn, hsame]
  · rw [if_neg hn, if_neg hn]

/-- a request for a change that was performed changed one application or one entry -/
theorem Effect.changes {host : Host} {o : Options} {rs : Requests} (now : Instant) {r : Request} {op : Operation}
    (h : Effect host (serve host o .empty rs) r op) (hput : r.method = .put) :
    ChangesApp host r (serve host o .empty rs) ((serve host o .empty rs).step now op).2 ∨
      ChangesEntry host r (serve host o .empty rs) ((serve host o .empty rs).step now op).2 := by
  have hperformed := h
  cases h with
  | @changeApp id n p x hleads hsent hfound =>
    obtain ⟨id, ms, _, hleads, hn, hbody, hpatch, -⟩ := hperformed.sends_appPatch
    refine Or.inl ⟨id, n, ms, x, x.patched p, hleads, hn, hbody, hfound, appMerged_patched hpatch x, ?_⟩
    have hordered := appView.ordered host o rs rs.length
    rw [storeAt_length] at hordered
    have hmap := map_patched hordered (n := n) (a := x) hfound p
    simp only [Store.step, Store.changeApp, hfound]
    exact congrArg (fun l => { serve host o .empty rs with apps := l }) hmap
  | @changeEntry id n p x hleads hsent hfound =>
    obtain ⟨id, ms, _, hleads, hn, hbody, hpatch, -⟩ := hperformed.sends_entryPatch
    refine Or.inr ⟨id, n, ms, x, x.patched p, hleads, hn, hbody, hfound, entryMerged_patched hpatch x, ?_⟩
    have hordered := entryView.ordered host o rs rs.length
    rw [storeAt_length] at hordered
    have hmap := map_patched hordered (n := n) (a := x) hfound p
    simp only [Store.step, Store.changeEntry, hfound]
    exact congrArg (fun l => { serve host o .empty rs with entries := l }) hmap
  | addApp hleads | removeApp hleads | addEntry hleads | removeEntry hleads =>
    have hmethod := hleads.1.symm.trans hput
    cases hmethod

/-- **Stored records fit.** After any requests from nothing, every application has a name and would pass the check of an
application to be saved, and every entry is for a model with a name and would pass the check of an entry to be made. A
request for a change is refused and leaves everything as it was, or changes one record: a part whose member is absent from
the body stays as it was, a member that is there is what the part becomes, and null is applied to a description only. -/
theorem stored_records_fit (host : Host) (o : Options) (rs : Requests) :
    (∀ a ∈ (serve host o .empty rs).apps,
      a.name ≠ "" ∧ Check.appDraft a.toValue = .ok ⟨a.name, a.description, a.code⟩) ∧
    (∀ e ∈ (serve host o .empty rs).entries,
      e.modelName ≠ "" ∧ Check.entryDraft e.toValue = .ok ⟨e.appId, e.modelName, e.data⟩) ∧
    ∀ now r, r.method = .put → Refused (serve host o .empty rs) (handle host o now (serve host o .empty rs) r) ∨
      ChangesApp host r (serve host o .empty rs) (handle host o now (serve host o .empty rs) r).2 ∨
      ChangesEntry host r (serve host o .empty rs) (handle host o now (serve host o .empty rs) r).2 := by
  refine ⟨?_, ?_, ?_⟩
  · intro a ha
    rw [← storeAt_length] at ha
    have hname := app_name_ne_empty ha
    exact ⟨hname, appDraft_toValue hname⟩
  · intro e he
    rw [← storeAt_length] at he
    have hname := entry_modelName_ne_empty he
    exact ⟨hname, entryDraft_toValue hname⟩
  · intro now r hput
    rcases settled_put host o now (serve host o .empty rs) hput with hrefused | ⟨op, heffect, hhandled⟩
    · exact Or.inl hrefused
    · rw [hhandled]
      exact Or.inr (heffect.changes now hput)

/-- a request that takes the description of the second application away and gives it other source -/
def clearing : Request := ⟨.put, "/api/apps/2", some "\x7b\"description\":null,\"code\":\"x\"\x7d"⟩

/-- an application and an entry are there, and a request for a change is performed -/
theorem stored_records_fit_clearing :
    (∃ a ∈ (serve .usual .standard .empty resaving).apps,
      a.name ≠ "" ∧ Check.appDraft a.toValue = .ok ⟨a.name, a.description, a.code⟩) ∧
    (∃ e ∈ (serve .usual .standard .empty resaving).entries,
      e.modelName ≠ "" ∧ Check.entryDraft e.toValue = .ok ⟨e.appId, e.modelName, e.data⟩) ∧
    clearing.method = .put ∧
    (handle .usual .standard ⟨4, 0⟩ (serve .usual .standard .empty resaving) clearing).1.status = 200 ∧
    (ChangesApp .usual clearing (serve .usual .standard .empty resaving)
        (handle .usual .standard ⟨4, 0⟩ (serve .usual .standard .empty resaving) clearing).2 ∨
      ChangesEntry .usual clearing (serve .usual .standard .empty resaving)
        (handle .usual .standard ⟨4, 0⟩ (serve .usual .standard .empty resaving) clearing).2) := by
  obtain ⟨happs, hentries, hchanges⟩ := stored_records_fit .usual .standard resaving
  obtain ⟨happ, hentry, hstatus⟩ : (serve .usual .standard .empty resaving).apps.length = 1 ∧
      (serve .usual .standard .empty resaving).entries.length = 1 ∧
      (handle .usual .standard ⟨4, 0⟩ (serve .usual .standard .empty resaving) clearing).1.status = 200 := by decide +kernel
  obtain ⟨a, ha⟩ := List.length_pos_iff_exists_mem.1 (Nat.lt_of_lt_of_eq Nat.one_pos happ.symm)
  obtain ⟨e, he⟩ := List.length_pos_iff_exists_mem.1 (Nat.lt_of_lt_of_eq Nat.one_pos hentry.symm)
  refine ⟨⟨a, ha, happs a ha⟩, ⟨e, he, hentries e he⟩, rfl, hstatus, (hchanges ⟨4, 0⟩ clearing rfl).resolve_left ?_⟩
  intro hrefused
  have hlow := hrefused.1
  rw [hstatus] at hlow
  exact absurd hlow (by decide)

end Pagewright.Server
