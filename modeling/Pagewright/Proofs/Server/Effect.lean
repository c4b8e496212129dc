/-
What a request can do to a store. Six kinds of requests make, change or remove something (`Effect`); each of them is one
operation of the store, and its answer tells of the record as the operation left it (`replyTo`). Every other request, and
every request that is refused, leaves the store as it was (`handle_cases`). What holds of requests one after the other is
derived from this and never from the handlers again.
-/
import Pagewright.Proofs.Store.History
import Pagewright.Server.Handler

namespace Pagewright.Server

open Check (Reading)
open Store (Operation AppDraft AppPatch EntryDraft EntryPatch SavedApp Entry)

section

variable (host : Host)

/-- a request sends something along: its body can be read, and what was read passes the checks -/
def Sends {α : Type} (r : Request) (read : Body → Reading α) (a : α) : Prop :=
  ∃ b, readBody host.room r.body = .ok b ∧ read b = .ok a

/-- a request leads to a route by a method -/
def Leads (r : Request) (m : Method) (route : Route) : Prop :=
  r.method = m ∧ targetOf r.method (host.pathOf r.address) = .route route

/-- a request performs an operation -/
inductive Effect (s : Store) (r : Request) : Operation → Prop where
  | addApp {d : AppDraft} (hleads : Leads host r .post .apps) (hsent : Sends host r (bodyAs Check.appDraft) d) :
      Effect s r (.addApp d)
  | changeApp {id : String} {n : Int} {p : AppPatch} {a : SavedApp} (hleads : Leads host r .put (.app id))
      (hsent : Sends host r (numberAndBody "app_id" id Check.appPatch) (n, p)) (hfound : s.appAt? n = some a) :
      Effect s r (.changeApp n p)
  | removeApp {id : String} {n : Int} {a : SavedApp} (hleads : Leads host r .delete (.app id))
      (hsent : pathNumber "app_id" id = .ok n) (hfound : s.appAt? n = some a) : Effect s r (.removeApp n)
  | addEntry {d : EntryDraft} {a : SavedApp} (hleads : Leads host r .post .entries)
      (hsent : Sends host r (bodyAs Check.entryDraft) d) (hfound : s.appAt? d.appId = some a) : Effect s r (.addEntry d)
  | changeEntry {id : String} {n : Int} {p : EntryPatch} {e : Entry} (hleads : Leads host r .put (.entry id))
      (hsent : Sends host r (numberAndBody "data_id" id Check.entryPatch) (n, p)) (hfound : s.entryAt? n = some e) :
      Effect s r (.changeEntry n p)
  | removeEntry {id : String} {n : Int} {e : Entry} (hleads : Leads host r .delete (.entry id))
      (hsent : pathNumber "data_id" id = .ok n) (hfound : s.entryAt? n = some e) : Effect s r (.removeEntry n)

/-- the record that an operation made or changed, as data -/
def recordOf : Store.Answer → Option Json.Value
  | .app a => a.map SavedApp.toValue
  | .entry e => e.map Entry.toValue
  | _ => none

def shownStatus : Operation → Nat
  | .addApp _ | .addEntry _ => 201
  | _ => 200

/-- the answer to a request that performed an operation: it shows the record that was made or changed, if there is one -/
def replyTo (op : Operation) (a : Store.Answer) : Response :=
  match recordOf a with
  | some v => shownResponse (shownStatus op) (host.shown? v)
  | none => ⟨204, .nothing⟩

/-- what comes of a request that performs an operation -/
def performed (now : Instant) (s : Store) (op : Operation) : Handled :=
  (replyTo host op (s.step now op).1, (s.step now op).2)

/-- an outcome that a request can have: the store is as it was, or one operation was performed on it -/
def Outcome (now : Instant) (s : Store) (r : Request) (x : Handled) : Prop :=
  x.2 = s ∨ ∃ op, Effect host s r op ∧ x = performed host now s op

end

/-! ## What was sent -/

section

variable {α : Type} {host : Host} {now : Instant} {s : Store} {r : Request}

theorem outcome_kept (a : Response) : Outcome host now s r (a, s) := Or.inl rfl

theorem Effect.outcome (now : Instant) {op : Operation} (h : Effect host s r op) :
    Outcome host now s r (performed host now s op) :=
  Or.inr ⟨op, h, rfl⟩

theorem outcome_whenRead (b : Body) {x : Reading α} {f : α → Handled} (h : ∀ a, x = .ok a → Outcome host now s r (f a)) :
    Outcome host now s r (whenRead host s b x f) := by
  cases x with
  | error issues => exact outcome_kept _
  | ok a => exact h a rfl

theorem outcome_whenBody {read : Body → Reading α} {f : α → Handled}
    (h : ∀ a, Sends host r read a → Outcome host now s r (f a)) :
    Outcome host now s r (whenBody host s r read f) := by
  unfold whenBody
  cases hbody : readBody host.room r.body with
  | error answer => exact outcome_kept answer
  | ok b => exact outcome_whenRead b fun a ha => h a ⟨b, hbody, ha⟩

theorem whenBody_of_sends {read : Body → Reading α} {a : α} (h : Sends host r read a) (f : α → Handled) :
    whenBody host s r read f = f a := by
  obtain ⟨b, hbody, ha⟩ := h
  simp only [whenBody, whenRead, hbody, ha]

end

/-! ## One request -/

/-- a route is reached only by the methods it allows -/
theorem allows_of_targetOf {m : Method} {path : List Char} {route : Route} (h : targetOf m path = .route route) :
    route.allows m = true := by
  delta targetOf at h
  cases hroute : routeOf path with
  | none =>
    rw [hroute] at h
    simp only at h
    split_ifs at h
  | some x =>
    rw [hroute] at h
    simp only at h
    split_ifs at h with hallows
    cases h
    exact hallows

variable {host : Host} {o : Options} {now : Instant} {s : Store} {r : Request}

theorem handle_of_leads {m : Method} {route : Route} (h : Leads host r m route) :
    handle host o now s r = answer host o now s r route := by
  delta handle
  rw [h.2]

/-- what a request performs is what comes of it -/
theorem handle_of_effect {op : Operation} (h : Effect host s r op) : handle host o now s r = performed host now s op := by
  cases h with
  | addApp hleads hsent =>
    simp only [handle_of_leads hleads, answer, hleads.1, whenBody_of_sends hsent]
    rfl
  | changeApp hleads hsent hfound =>
    simp only [handle_of_leads hleads, answer, hleads.1, whenBody_of_sends hsent, performed, Store.step, Store.changeApp,
      hfound]
    rfl
  | removeApp hleads hsent hfound =>
    simp only [handle_of_leads hleads, answer, hleads.1, whenRead, hsent, performed, Store.step, Store.removeApp, hfound]
    rfl
  | addEntry hleads hsent hfound =>
    simp only [handle_of_leads hleads, answer, whenBody_of_sends hsent, hfound]
    rfl
  | changeEntry hleads hsent hfound =>
    simp only [handle_of_leads hleads, answer, hleads.1, whenBody_of_sends hsent, performed, Store.step, Store.changeEntry,
      hfound]
    rfl
  | removeEntry hleads hsent hfound =>
    simp only [handle_of_leads hleads, answer, hleads.1, whenRead, hsent, performed, Store.step, Store.removeEntry, hfound]
    rfl

theorem outcome_apps (hroute : targetOf r.method (host.pathOf r.address) = .route .apps) :
    Outcome host now s r (answer host o now s r .apps) := by
  simp only [answer]
  split
  · rename_i hmethod
    apply outcome_whenBody
    intro d hsent
    exact (Effect.addApp ⟨hmethod, hroute⟩ hsent).outcome now
  · exact outcome_kept _

theorem outcome_app {id : String} (hroute : targetOf r.method (host.pathOf r.address) = .route (.app id)) :
    Outcome host now s r (answer host o now s r (.app id)) := by
  simp only [answer]
  split
  · rename_i hmethod
    apply outcome_whenBody
    intro x hsent
    obtain ⟨n, p⟩ := x
    cases hfound : s.appAt? n with
    | none => simpa only [Store.changeApp, hfound] using outcome_kept Response.appNotFound
    | some a =>
      have heffect : Effect host s r _ := .changeApp ⟨hmethod, hroute⟩ hsent hfound
      simpa only [performed, replyTo, recordOf, shownStatus, Option.map_some, Store.step, Store.changeApp, hfound]
        using heffect.outcome now
  · rename_i hmethod
    apply outcome_whenRead
    intro n hsent
    cases hfound : s.appAt? n with
    | none => simpa only [Store.removeApp, hfound] using outcome_kept Response.appNotFound
    | some a =>
      have heffect : Effect host s r _ := .removeApp ⟨hmethod, hroute⟩ hsent hfound
      simpa only [performed, replyTo, recordOf, Store.step, Store.removeApp, hfound] using heffect.outcome now
  · apply outcome_whenRead
    intro n _
    cases s.appAt? n <;> exact outcome_kept _

theorem outcome_entries (hroute : targetOf r.method (host.pathOf r.address) = .route .entries) :
    Outcome host now s r (answer host o now s r .entries) := by
  have hmethod : r.method = .post := by simpa [Route.allows] using allows_of_targetOf hroute
  simp only [answer]
  apply outcome_whenBody
  intro d hsent
  cases hfound : s.appAt? d.appId with
  | none => exact outcome_kept _
  | some a => exact (Effect.addEntry ⟨hmethod, hroute⟩ hsent hfound).outcome now

theorem outcome_entry {id : String} (hroute : targetOf r.method (host.pathOf r.address) = .route (.entry id)) :
    Outcome host now s r (answer host o now s r (.entry id)) := by
  have hallows : r.method = .put ∨ r.method = .delete := by simpa [Route.allows] using allows_of_targetOf hroute
  simp only [answer]
  split
  · rename_i hmethod
    apply outcome_whenBody
    intro x hsent
    obtain ⟨n, p⟩ := x
    cases hfound : s.entryAt? n with
    | none => simpa only [Store.changeEntry, hfound] using outcome_kept Response.entryNotFound
    | some e =>
      have heffect : Effect host s r _ := .changeEntry ⟨hmethod, hroute⟩ hsent hfound
      simpa only [performed, replyTo, recordOf, shownStatus, Option.map_some, Store.step, Store.changeEntry, hfound]
        using heffect.outcome now
  · rename_i hput
    have hmethod : r.method = .delete := hallows.resolve_left hput
    apply outcome_whenRead
    intro n hsent
    cases hfound : s.entryAt? n with
    | none => simpa only [Store.removeEntry, hfound] using outcome_kept Response.entryNotFound
    | some e =>
      have heffect : Effect host s r _ := .removeEntry ⟨hmethod, hroute⟩ hsent hfound
      simpa only [performed, replyTo, recordOf, Store.step, Store.removeEntry, hfound] using heffect.outcome now

theorem outcome_preview (id : String) : Outcome host now s r (answer host o now s r (.preview id)) := by
  apply outcome_whenRead
  intro n _
  cases s.appAt? n <;> exact outcome_kept _

theorem outcome_compile : Outcome host now s r (answer host o now s r .compile) := by
  apply outcome_whenBody
  intro source _
  exact outcome_kept _

theorem outcome_run : Outcome host now s r (answer host o now s r .run) := by
  apply outcome_whenBody
  intro source _
  split_ifs
  · exact outcome_kept _
  · exact outcome_kept _

/-- a request leaves the store as it was, or performs one operation on it -/
theorem handle_cases (host : Host) (o : Options) (now : Instant) (s : Store) (r : Request) :
    Outcome host now s r (handle host o now s r) := by
  delta handle
  cases htarget : targetOf r.method (host.pathOf r.address) with
  | route route =>
    cases route with
    | apps => exact outcome_apps htarget
    | app id => exact outcome_app htarget
    | preview id => exact outcome_preview id
    | entriesOf id model => exact outcome_whenRead _ fun n _ => outcome_kept _
    | entries => exact outcome_entries htarget
    | entry id => exact outcome_entry htarget
    | compile => exact outcome_compile
    | run => exact outcome_run
    | manual => exact outcome_kept _
  | _ => exact outcome_kept _

end Pagewright.Server
