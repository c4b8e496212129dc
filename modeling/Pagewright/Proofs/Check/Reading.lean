/-
When a reading succeeds, and with what. For each way to read data there is one equivalence: it gives a value exactly when
the data are that value written down. Reading a record comes apart into its members in the same way, so what a checked
record holds is found out without looking at the issues of those that fail.
-/
import Mathlib.Data.List.Forall2
import Pagewright.Check.Payload
import Pagewright.Proofs.Text.Wide

namespace Pagewright.Check

open Json (Value Members)
open Reading
open Text (Wide)
open Store (AppDraft AppPatch EntryDraft EntryPatch)

section

variable {α β : Type}

/-! ## Putting readings together -/

namespace Reading

@[simp] theorem refuse_ne_ok (p : Problem) (a : α) : (refuse p : Reading α) ≠ .ok a := by
  intro h
  cases h

theorem into_eq_ok {r : Reading α} {f : α → β} {b : β} : r.into f = .ok b ↔ ∃ a, r = .ok a ∧ f a = b := by
  cases r <;> simp [into, Except.map]

theorem andAlso_eq_ok {f : Reading (α → β)} {x : Reading α} {b : β} :
    f.andAlso x = .ok b ↔ ∃ g a, f = .ok g ∧ x = .ok a ∧ g a = b := by
  cases f <;> cases x <;> simp [andAlso]

@[simp] theorem under_eq_ok {k : Key} {r : Reading α} {a : α} : under k r = .ok a ↔ r = .ok a := by
  cases r <;> simp [under]

end Reading

/-! ## Single values -/

theorem wide_eq_ok {v : Value} {w : Wide} : wide v = .ok w ↔ v = .text w := by
  cases v <;> simp [wide]

theorem whole_eq_ok {w : Wide} {s : String} : whole w = .ok s ↔ w = s := by
  rw [← Wide.toString?_eq_some, whole]
  cases w.toString? <;> simp

theorem text_eq_ok {v : Value} {s : String} : text v = .ok s ↔ v = .text s := by
  cases v <;> simp [text, whole_eq_ok]

theorem nonEmptyText_eq_ok {v : Value} {s : String} : nonEmptyText v = .ok s ↔ v = .text s ∧ s ≠ "" := by
  rw [← text_eq_ok]
  cases h : text v with
  | error issues => simp [nonEmptyText, h, bind, Except.bind]
  | ok t =>
    simp only [nonEmptyText, h, bind, Except.bind, String.isEmpty_iff, Except.ok.injEq]
    by_cases ht : t = ""
    · simp only [ht, if_true, refuse_ne_ok, false_iff, not_and, not_not]
      exact Eq.symm
    · simpa [ht] using fun hs : t = s => hs ▸ ht

/-- a text that may be missing is written as null when it is -/
theorem wideOrNull_eq_ok {v : Value} {w : Option Wide} : wideOrNull v = .ok w ↔ v = .ofOption (w.map .text) := by
  cases w <;> cases v <;> simp [wideOrNull, wide, Value.ofOption, Except.map, refuse]

theorem object_eq_ok {v : Value} {ms : Members} : object v = .ok ms ↔ v = .object ms := by
  cases v <;> simp [object]

theorem name_eq_ok {v : Value} {s : String} : name v = .ok s ↔ v = .text s ∧ Name.isAccepted s.toList = true := by
  rw [← text_eq_ok]
  cases htext : text v with
  | error issues => simp [name, htext, bind, Except.bind]
  | ok t =>
    simp only [name, htext, bind, Except.bind, Name.check, Except.ok.injEq]
    by_cases h : Name.isAccepted t.toList = true
    · simpa [h] using fun hs : t = s => hs ▸ h
    · rw [Bool.not_eq_true] at h
      simpa [h] using fun hs : t = s => hs ▸ h

/-- a default is read back from the data it is written as -/
theorem literal_toValue (d : Option Literal) : literal (.ofOption (d.map Literal.toValue)) = .ok d := by
  rcases d with - | x
  · rfl
  · cases x <;> rfl

/-! ## Lists -/

theorem itemsFrom_eq_ok {read : Value → Reading α} {n : Nat} {vs : List Value} {as : List α} :
    itemsFrom read n vs = .ok as ↔ List.Forall₂ (fun v a => read v = .ok a) vs as := by
  induction vs generalizing n as with
  | nil => simp [itemsFrom, eq_comm]
  | cons v vs ih =>
    simp only [itemsFrom, andAlso_eq_ok, into_eq_ok, under_eq_ok, ih, List.forall₂_cons_left_iff]
    constructor
    · rintro ⟨f, bs, ⟨a, ha, rfl⟩, hbs, rfl⟩
      exact ⟨a, bs, ha, hbs, rfl⟩
    · rintro ⟨a, bs, ha, hbs, rfl⟩
      exact ⟨List.cons a, bs, ⟨a, ha, rfl⟩, hbs, rfl⟩

theorem array_eq_ok {read : Value → Reading α} {v : Value} {as : List α} :
    array read v = .ok as ↔ ∃ vs, v = .array vs ∧ List.Forall₂ (fun v a => read v = .ok a) vs as := by
  cases v <;> simp [array, itemsFrom_eq_ok]

/-- a list is read back when each of its items is -/
theorem array_map {read : Value → Reading α} {write : α → Value} {as : List α} (h : ∀ a ∈ as, read (write a) = .ok a) :
    array read (.array (as.map write)) = .ok as := by
  refine array_eq_ok.2 ⟨_, rfl, ?_⟩
  rw [List.forall₂_map_left_iff, List.forall₂_same]
  exact h

theorem array_text_eq_ok {v : Value} {ns : List String} : array text v = .ok ns ↔ v = .array (ns.map .ofString) := by
  constructor
  · intro h
    obtain ⟨vs, rfl, hvs⟩ := array_eq_ok.1 h
    simp only [text_eq_ok] at hvs
    have heq : List.Forall₂ Eq vs (ns.map .ofString) := List.forall₂_map_right_iff.2 hvs
    rw [List.forall₂_eq_eq_eq] at heq
    rw [heq]
  · rintro rfl
    exact array_map fun _ _ => rfl

theorem names_eq_ok {v : Value} {ns : List String} :
    names v = .ok ns ↔ v = .array (ns.map .ofString) ∧ ∀ n ∈ ns, Name.isAccepted n.toList = true := by
  rw [← array_text_eq_ok]
  cases h : array text v with
  | error issues => simp [names, h, bind, Except.bind]
  | ok ms =>
    simp only [names, h, bind, Except.bind]
    cases hfound : ms.find? fun s => !Name.isAccepted s.toList with
    | none =>
      have hall : ∀ n ∈ ms, Name.isAccepted n.toList = true := by simpa using hfound
      simpa using fun hs : ms = ns => hs ▸ hall
    | some s =>
      have hs := List.find?_some hfound
      have hmem := List.mem_of_find?_eq_some hfound
      simp only [refuse_ne_ok, false_iff, not_and, Except.ok.injEq]
      rintro rfl hall
      rw [hall s hmem] at hs
      cases hs

/-! ## Members -/

theorem required_eq_ok {key : String} {read : Value → Reading α} {ms : Members} {a : α} :
    required key read ms = .ok a ↔ ∃ v, ms.get? key = some v ∧ read v = .ok a := by
  cases h : ms.get? key <;> simp [required, h]

theorem optional_eq_ok {key : String} {absent : α} {read : Value → Reading α} {ms : Members} {a : α} :
    optional key absent read ms = .ok a ↔
      (ms.get? key = none ∧ a = absent) ∨ ∃ v, ms.get? key = some v ∧ read v = .ok a := by
  cases h : ms.get? key with
  | none => simpa [optional, h] using eq_comm
  | some v => simp [optional, h]

/-- what may be absent is read from the member that it is written as -/
theorem present_eq_ok {key : String} {read : Value → Reading α} {write : α → Value} {ok : α → Prop}
    (hread : ∀ v a, read v = .ok a ↔ v = write a ∧ ok a) {ms : Members} {x : Option α} :
    present key read ms = .ok x ↔ ms.get? key = x.map write ∧ ∀ a ∈ x, ok a := by
  have hmap : ∀ v, (read v).map some = .ok x ↔ ∃ a, read v = .ok a ∧ x = some a := by
    intro v
    cases read v <;> simp [Except.map, eq_comm]
  simp only [present, optional_eq_ok, hmap, hread]
  cases x with
  | none => simp
  | some a => simp

theorem record_eq_ok {shape : Shape} {read : Members → Reading α} {v : Value} {a : α} :
    record shape read v = .ok a ↔ ∃ ms, v = .object ms ∧ read ms = .ok a := by
  cases v <;> simp [record]

end

/-! ## Trees -/

theorem field_eq_ok {v : Value} {f : Field} :
    field v = .ok f ↔ ∃ ms : Members, v = .object ms ∧ required "name" name ms = .ok f.name ∧
      required "type" name ms = .ok f.type ∧ optional "required" false bool ms = .ok f.required ∧
      optional "default" none literal ms = .ok f.default := by
  obtain ⟨name, type, required, default⟩ := f
  simp only [field, record_eq_ok, andAlso_eq_ok, into_eq_ok]
  simp [and_assoc]

theorem model_eq_ok {v : Value} {m : Model} :
    model v = .ok m ↔ ∃ ms : Members, v = .object ms ∧ required "name" name ms = .ok m.name ∧
      optional "fields" [] (array field) ms = .ok m.fields := by
  obtain ⟨name, fields⟩ := m
  simp only [model, record_eq_ok, andAlso_eq_ok, into_eq_ok]
  simp

theorem binding_eq_ok {k : BindingKind} {v : Value} {b : Binding} :
    binding k v = .ok b ↔ ∃ ms : Members, v = .object ms ∧ required "name" name ms = .ok b.name ∧
      required "model" name ms = .ok b.model ∧ optional "fields" [] names ms = .ok b.fields := by
  obtain ⟨name, model, fields⟩ := b
  simp only [binding, record_eq_ok, andAlso_eq_ok, into_eq_ok]
  simp [and_assoc]

theorem page_eq_ok {v : Value} {p : Page} :
    page v = .ok p ↔ ∃ ms : Members, v = .object ms ∧ required "name" name ms = .ok p.name ∧
      required "title" text ms = .ok p.title ∧ optional "components" [] names ms = .ok p.components := by
  obtain ⟨name, title, components⟩ := p
  simp only [page, record_eq_ok, andAlso_eq_ok, into_eq_ok]
  simp [and_assoc]

theorem app_eq_ok {v : Value} {a : App} :
    app v = .ok a ↔ ∃ ms : Members, v = .object ms ∧ optional "models" [] (array model) ms = .ok a.models ∧
      optional "forms" [] (array (binding .form)) ms = .ok a.forms ∧
      optional "views" [] (array (binding .view)) ms = .ok a.views ∧
      optional "lists" [] (array (binding .list)) ms = .ok a.lists ∧
      optional "pages" [] (array page) ms = .ok a.pages := by
  obtain ⟨models, forms, views, lists, pages⟩ := a
  simp only [app, record_eq_ok, andAlso_eq_ok, into_eq_ok]
  simp [and_assoc]

/-! ## Drafts and patches -/

theorem refuseNulls_eq_ok {keys : List String} {ms : Members} :
    refuseNulls keys ms = .ok () ↔ ∀ k ∈ keys, ms.get? k ≠ some .null := by
  unfold refuseNulls
  split
  · rename_i k hfound
    have hnull := List.find?_some hfound
    have hmem := List.mem_of_find?_eq_some hfound
    simp only [refuse_ne_ok, false_iff, not_forall, not_not]
    refine ⟨k, hmem, ?_⟩
    split at hnull
    · assumption
    · cases hnull
  · rename_i hnone
    simp only [true_iff]
    intro k hk hnull
    have hpassed := List.find?_eq_none.1 hnone k hk
    rw [hnull] at hpassed
    exact hpassed rfl

/-- a text that may be missing is read alike from null and from nothing -/
theorem optional_wideOrNull_eq_ok {key : String} {ms : Members} {x : Option Wide} :
    optional key none wideOrNull ms = .ok x ↔ (ms.get? key).getD .null = .ofOption (x.map .text) := by
  rw [← wideOrNull_eq_ok, optional]
  cases ms.get? key with
  | none => rfl
  | some v => exact under_eq_ok

/-- a draft of an application: a description that is absent is taken as null -/
theorem appDraft_eq_ok {v : Value} {d : AppDraft} :
    appDraft v = .ok d ↔ ∃ ms : Members, v = .object ms ∧ ms.get? "name" = some (.text d.name) ∧ d.name ≠ "" ∧
      (ms.get? "description").getD .null = .ofOption (d.description.map .text) ∧ ms.get? "code" = some (.text d.code) := by
  obtain ⟨name, description, code⟩ := d
  simp only [appDraft, record_eq_ok, andAlso_eq_ok, into_eq_ok, required_eq_ok, optional_wideOrNull_eq_ok,
    nonEmptyText_eq_ok, wide_eq_ok]
  simp [and_assoc]

theorem entryDraft_eq_ok {v : Value} {d : EntryDraft} :
    entryDraft v = .ok d ↔ ∃ ms : Members, v = .object ms ∧ required "app_id" int ms = .ok d.appId ∧
      ms.get? "model_name" = some (.text d.modelName) ∧ d.modelName ≠ "" ∧ ms.get? "data" = some (.object d.data) := by
  obtain ⟨appId, modelName, data⟩ := d
  simp only [entryDraft, record_eq_ok, andAlso_eq_ok, into_eq_ok, required_eq_ok, nonEmptyText_eq_ok, object_eq_ok]
  simp [and_assoc]

/-- a member that is a text or absent is not null -/
theorem map_text_ne_null (x : Option Wide) : x.map Value.text ≠ some .null := by
  cases x <;> simp

theorem map_ofString_ne_null (x : Option String) : x.map Value.ofString ≠ some .null := by
  cases x <;> simp

/-- what is read once nulls are refused -/
theorem refuseNulls_bind_eq_ok {α : Type} {keys : List String} {ms : Members} {x : Reading α} {a : α} :
    (refuseNulls keys ms >>= fun _ => x) = .ok a ↔ (∀ k ∈ keys, ms.get? k ≠ some .null) ∧ x = .ok a := by
  rw [← refuseNulls_eq_ok]
  cases refuseNulls keys ms <;> simp [bind, Except.bind]

theorem present_nonEmptyText_eq_ok {key : String} {ms : Members} {x : Option String} :
    present key nonEmptyText ms = .ok x ↔ ms.get? key = x.map .ofString ∧ x ≠ some "" := by
  rw [present_eq_ok fun _ _ => nonEmptyText_eq_ok]
  cases x <;> simp

theorem present_wide_eq_ok {key : String} {ms : Members} {x : Option Wide} :
    present key wide ms = .ok x ↔ ms.get? key = x.map .text := by
  rw [present_eq_ok fun _ _ => wide_eq_ok.trans (and_true _).symm.to_iff]
  simp

theorem present_wideOrNull_eq_ok {key : String} {ms : Members} {x : Option (Option Wide)} :
    present key wideOrNull ms = .ok x ↔ ms.get? key = x.map fun d => .ofOption (d.map .text) := by
  rw [present_eq_ok fun _ _ => wideOrNull_eq_ok.trans (and_true _).symm.to_iff]
  simp

theorem present_object_eq_ok {key : String} {ms : Members} {x : Option Members} :
    present key object ms = .ok x ↔ ms.get? key = x.map .object := by
  rw [present_eq_ok fun _ _ => object_eq_ok.trans (and_true _).symm.to_iff]
  simp

/-- a change of an application: each part is what its member is, and is left out when the member is absent -/
theorem appPatch_eq_ok {v : Value} {p : AppPatch} :
    appPatch v = .ok p ↔ ∃ ms : Members, v = .object ms ∧ (ms.get? "name" = p.name.map .ofString ∧ p.name ≠ some "") ∧
      ms.get? "description" = p.description.map (fun d => .ofOption (d.map .text)) ∧ ms.get? "code" = p.code.map .text := by
  obtain ⟨name, description, code⟩ := p
  simp only [appPatch, record_eq_ok, refuseNulls_bind_eq_ok, andAlso_eq_ok, into_eq_ok, present_nonEmptyText_eq_ok,
    present_wideOrNull_eq_ok, present_wide_eq_ok]
  constructor
  · rintro ⟨ms, rfl, -, f, c, ⟨g, x, ⟨n, hn, rfl⟩, hx, rfl⟩, hc, hp⟩
    cases hp
    exact ⟨ms, rfl, hn, hx, hc⟩
  · rintro ⟨ms, rfl, hn, hx, hc⟩
    refine ⟨ms, rfl, ?_, _, _, ⟨_, _, ⟨_, hn, rfl⟩, hx, rfl⟩, hc, rfl⟩
    simp only [List.mem_cons, List.not_mem_nil, or_false, forall_eq_or_imp, forall_eq, hn.1, hc]
    exact ⟨map_ofString_ne_null _, map_text_ne_null _⟩

/-- a change of an entry: each part is what its member is, and is left out when the member is absent -/
theorem entryPatch_eq_ok {v : Value} {p : EntryPatch} :
    entryPatch v = .ok p ↔ ∃ ms : Members, v = .object ms ∧
      (ms.get? "model_name" = p.modelName.map .ofString ∧ p.modelName ≠ some "") ∧ ms.get? "data" = p.data.map .object := by
  obtain ⟨modelName, data⟩ := p
  simp only [entryPatch, record_eq_ok, refuseNulls_bind_eq_ok, andAlso_eq_ok, into_eq_ok, present_nonEmptyText_eq_ok,
    present_object_eq_ok]
  constructor
  · rintro ⟨ms, rfl, -, f, c, ⟨n, hn, rfl⟩, hc, hp⟩
    cases hp
    exact ⟨ms, rfl, hn, hc⟩
  · rintro ⟨ms, rfl, hn, hc⟩
    refine ⟨ms, rfl, ?_, _, _, ⟨_, hn, rfl⟩, hc, rfl⟩
    simp only [List.mem_cons, List.not_mem_nil, or_false, forall_eq_or_imp, forall_eq, hn.1, hc]
    refine ⟨map_ofString_ne_null _, ?_⟩
    cases data <;> simp

end Pagewright.Check
