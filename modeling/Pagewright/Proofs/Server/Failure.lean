/-
Requests that fail. An answer of status 400 or above leaves the store as it was, but for one kind of request
(`failed_request_keeps_store`): a record is stored before it is shown, and when it nests too deep or holds a half it cannot be
shown, so the request is answered as an error inside the program although it was performed (`Hides`). A request that only
looks or compiles never changes the store, whatever is answered.
-/
import Pagewright.Proofs.Json.Bytes
import Pagewright.Proofs.Server.Effect
import Pagewright.Server.Usual

namespace Pagewright.Server

open Json (Value)
open Store (Operation Entry isShowable)

section

variable (host : Host)

/-- the host shows what has at most `n` levels, no halves and no integer that is too long to be written, and nothing else -/
def Host.ShowsWithin (n : Nat) : Prop := ∀ v, (host.shown? v).isSome = isShowable n v

/-- a request stores a record, which leaves the store as told -/
def Stores (now : Instant) (s : Store) (r : Request) (v : Value) (t : Store) : Prop :=
  ∃ op, Effect host s r op ∧ recordOf (s.step now op).1 = some v ∧ (s.step now op).2 = t

/-- a request stores a record that has more than `n` levels, holds a half, or holds an integer that is too long to be
written -/
def Hides (n : Nat) (now : Instant) (s : Store) (r : Request) (t : Store) : Prop :=
  ∃ v, Stores host now s r v t ∧ isShowable n v = false

end

variable {host : Host} {now : Instant} {s : Store} {r : Request}

/-! ## Failures -/

/-- an answer that shows a record tells of an error exactly when the record cannot be shown -/
theorem status_replyTo {op : Operation} {a : Store.Answer} {v : Value} (hrecord : recordOf a = some v) :
    400 ≤ (replyTo host op a).status ↔ host.shown? v = none := by
  have hstatus : shownStatus op < 400 := by cases op <;> simp [shownStatus]
  simp only [replyTo, hrecord]
  cases hshown : host.shown? v with
  | none => exact iff_of_true (by decide : 400 ≤ 500) rfl
  | some w => exact iff_of_false (Nat.not_le.2 hstatus) (by simp)

theorem shown?_eq_none {n : Nat} (h : host.ShowsWithin n) {v : Value} : host.shown? v = none ↔ isShowable n v = false := by
  rw [← h v]
  simp

/-- what was performed fails only when a record cannot be shown -/
theorem Effect.hides {n : Nat} (hshows : host.ShowsWithin n) {op : Operation} (h : Effect host s r op)
    (hfailed : 400 ≤ (performed host now s op).1.status) : Hides host n now s r (s.step now op).2 := by
  cases hrecord : recordOf (s.step now op).1 with
  | none =>
    simp only [performed, replyTo, hrecord] at hfailed
    exact absurd hfailed (by decide)
  | some v =>
    have hnone := (status_replyTo hrecord).1 hfailed
    exact ⟨v, ⟨op, h, hrecord, rfl⟩, (shown?_eq_none hshows).1 hnone⟩

/-- no operation is performed by a request that looks -/
theorem Effect.method_ne_get {op : Operation} (h : Effect host s r op) : r.method ≠ .get := by
  cases h with
  | addApp hleads | changeApp hleads | removeApp hleads | addEntry hleads | changeEntry hleads | removeEntry hleads =>
    rw [hleads.1]
    decide

/-- no operation is performed by a request that compiles -/
theorem Effect.target_ne {op : Operation} (h : Effect host s r op) :
    targetOf r.method (host.pathOf r.address) ≠ .route .compile ∧
      targetOf r.method (host.pathOf r.address) ≠ .route .run := by
  cases h with
  | addApp hleads | changeApp hleads | removeApp hleads | addEntry hleads | changeEntry hleads | removeEntry hleads =>
    rw [hleads.2]
    simp

/-- **Failed requests.** A request whose answer has a status of 400 or above leaves the applications, the entries and both
counts of numbers as they were, unless it stored a record that cannot be shown; such a request is always answered as an error
inside the program. A request that looks, compiles or runs leaves them as they were whatever is answered. -/
theorem failed_request_keeps_store {n : Nat} (hshows : host.ShowsWithin n) (o : Options) (now : Instant) (s : Store)
    (r : Request) :
    (400 ≤ (handle host o now s r).1.status →
        (handle host o now s r).2 = s ∨ Hides host n now s r (handle host o now s r).2) ∧
      (∀ t, Hides host n now s r t → handle host o now s r = (.broken, t)) ∧
      (r.method = .get ∨ targetOf r.method (host.pathOf r.address) = .route .compile ∨
          targetOf r.method (host.pathOf r.address) = .route .run →
        (handle host o now s r).2 = s) := by
  refine ⟨?_, ?_, ?_⟩
  · intro hfailed
    rcases handle_cases host o now s r with hkept | ⟨op, heffect, hhandled⟩
    · exact Or.inl hkept
    · rw [hhandled] at hfailed ⊢
      exact Or.inr (heffect.hides hshows hfailed)
  · rintro t ⟨v, ⟨op, heffect, hrecord, rfl⟩, hhidden⟩
    have hnone := (shown?_eq_none hshows).2 hhidden
    rw [handle_of_effect heffect, performed, replyTo, hrecord]
    simp only [hnone, shownResponse]
  · intro hlooks
    rcases handle_cases host o now s r with hkept | ⟨op, heffect, -⟩
    · exact hkept
    · rcases hlooks with hget | hcompile | hrun
      · exact absurd hget heffect.method_ne_get
      · exact absurd hcompile heffect.target_ne.1
      · exact absurd hrun heffect.target_ne.2

/-! ## An entry that nests too deep -/

/-- a body that is an object is read as its characters -/
theorem readBody_object {room : Json.Room} {r : List Char} {v : Value}
    (h : Json.parseChars room ('\x7b' :: '"' :: r) = .ok v) :
    readBody room (some (String.ofList ('\x7b' :: '"' :: r))) = .ok (.value v) := by
  have hbytes := Json.parseBytes_object room r
  rw [Json.parse_ofList, h] at hbytes
  have hsome : (String.ofList ('\x7b' :: '"' :: r)).isEmpty = false := by
    rw [Bool.eq_false_iff, ne_eq, String.isEmpty_iff, ← String.toList_eq_nil_iff, String.toList_ofList]
    exact List.cons_ne_nil _ _
  simp only [readBody, hsome, hbytes]
  rfl

def savingRequest : Request := ⟨.post, "/api/apps", some "\x7b\"name\":\"n\",\"code\":\"\"\x7d"⟩

/-- the body of a request for an entry of the first application, with lists in one another after its opening -/
def nestingTail (n : Nat) : List Char :=
  "app_id\":1,\"model_name\":\"m\",\"data\":\x7b\"a\":".toList ++ List.replicate n '[' ++ List.replicate n ']' ++
    ['\x7d', '\x7d']

/-- a request for an entry of the first application, with lists in one another -/
def nestingRequest (n : Nat) : Request := ⟨.post, "/api/data", some (String.ofList ('\x7b' :: '"' :: nestingTail n))⟩

/-- what was read is an entry of the first application that nests too deep to be shown -/
def readsTooDeep (n : Nat) (x : Except Json.ReadError Value) : Bool :=
  match x with
  | .error _ => false
  | .ok v =>
    match bodyAs Check.entryDraft (.value v) with
    | .error _ => false
    | .ok d => d.appId = 1 && n < Store.levelsOfMembers d.data

theorem exists_of_readsTooDeep {n : Nat} {x : Except Json.ReadError Value} (h : readsTooDeep n x = true) :
    ∃ v d, x = .ok v ∧ bodyAs Check.entryDraft (.value v) = .ok d ∧ d.appId = 1 ∧ n < Store.levelsOfMembers d.data := by
  unfold readsTooDeep at h
  split at h
  · cases h
  · rename_i v
    split at h
    · cases h
    · rename_i d hd
      simp only [Bool.and_eq_true, decide_eq_true_eq] at h
      exact ⟨v, d, rfl, hd, h⟩

/-- a store with one application and no entry -/
def firstSaved : Store := serve .usual .standard .empty [(⟨0, 0⟩, savingRequest)]

/-- data of an entry are two levels down in its record -/
theorem not_isShowable_toValue {n : Nat} {e : Entry} (h : n < Store.levelsOfMembers e.data) :
    isShowable (n + 2) e.toValue = false := by
  have hdeep : ¬Store.levels e.toValue ≤ n + 2 := by
    simp only [Entry.toValue, Store.levels, Store.levelsOfMembers]
    omega
  simp [isShowable, hdeep]

theorem showsWithin_usual : Host.usual.ShowsWithin 257 := by
  intro v
  show (Store.shownWithin 257 v).isSome = _
  unfold Store.shownWithin
  cases isShowable 257 v <;> rfl

/-- an entry with 300 lists in one another is stored -/
theorem hides_nestingRequest : ∃ t, Hides .usual 257 ⟨1, 0⟩ firstSaved (nestingRequest 300) t ∧
    t.entries.length = firstSaved.entries.length + 1 ∧ t.nextEntry = firstSaved.nextEntry + 1 := by
  have hsaved : (firstSaved.appAt? 1).isSome = true := by decide +kernel
  obtain ⟨a, hfound⟩ := Option.isSome_iff_exists.1 hsaved
  have hleads : Leads .usual (nestingRequest 300) .post .entries := ⟨rfl, by decide +kernel⟩
  have hread : readsTooDeep 255 (Json.parseChars Host.usual.room ('\x7b' :: '"' :: nestingTail 300)) = true := by
    decide +kernel
  obtain ⟨v, d, hv, hd, happ, hdeep⟩ := exists_of_readsTooDeep hread
  have hsent : Sends .usual (nestingRequest 300) (bodyAs Check.entryDraft) d := ⟨.value v, readBody_object hv, hd⟩
  rw [← happ] at hfound
  refine ⟨_, ⟨_, ⟨_, .addEntry hleads hsent hfound, rfl, rfl⟩, not_isShowable_toValue hdeep⟩, ?_, rfl⟩
  simp [Store.step, Store.addEntry]

/-- the usual host, and a request that fails on it although it was performed -/
theorem failed_request_keeps_store_nesting : Host.usual.ShowsWithin 257 ∧
    ∃ t, Hides .usual 257 ⟨1, 0⟩ firstSaved (nestingRequest 300) t ∧
      handle .usual .standard ⟨1, 0⟩ firstSaved (nestingRequest 300) = (.broken, t) := by
  obtain ⟨t, hhides, -⟩ := hides_nestingRequest
  exact ⟨showsWithin_usual, t, hhides, (failed_request_keeps_store showsWithin_usual .standard _ _ _).2.1 t hhides⟩

/-- a request that saves an application whose source is a half -/
def halvedRequest : Request := ⟨.post, "/api/apps", some "\x7b\"name\":\"n\",\"code\":\"\\ud800\"\x7d"⟩

/-- an entry that nests too deep and an application with a half are stored and get a number, but the answers tell of an
error -/
theorem failed_request_stores_record :
    ((handle .usual .standard ⟨1, 0⟩ firstSaved (nestingRequest 300)).1.status = 500 ∧
      (handle .usual .standard ⟨1, 0⟩ firstSaved (nestingRequest 300)).2.entries.length = firstSaved.entries.length + 1 ∧
      (handle .usual .standard ⟨1, 0⟩ firstSaved (nestingRequest 300)).2.nextEntry = firstSaved.nextEntry + 1) ∧
    ((handle .usual .standard ⟨1, 0⟩ firstSaved halvedRequest).1.status = 500 ∧
      (handle .usual .standard ⟨1, 0⟩ firstSaved halvedRequest).2.apps.length = firstSaved.apps.length + 1) := by
  refine ⟨?_, by decide +kernel⟩
  obtain ⟨t, ⟨v, ⟨op, heffect, hrecord, rfl⟩, hhidden⟩, hentries, hnext⟩ := hides_nestingRequest
  have hnone := (shown?_eq_none showsWithin_usual).2 hhidden
  rw [handle_of_effect heffect]
  refine ⟨?_, hentries, hnext⟩
  simp only [performed, replyTo, hrecord, hnone, shownResponse]
  rfl

end Pagewright.Server
