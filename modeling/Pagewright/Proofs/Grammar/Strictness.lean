/-
What strict types ask for. With them, reading gives an application exactly when it does so without them and every field of
the application has a known type (`app_eq_ok_iff_known`): the check in the middle of a field refuses, and changes nothing.

`Narrows P R R'` says of two rules that the first reads what the second reads and has the property `P`. It is carried
from a field, where the check is made, to repetitions, models and declarations.
-/
import Pagewright.Proofs.Grammar.Erasure

namespace Pagewright

def Model.Known (m : Model) : Prop := ∀ f ∈ m.fields, f.isKnown = true

/-- every field of every model has a known type -/
def App.Known (a : App) : Prop := ∀ m ∈ a.models, m.Known

theorem Field.isKnown_iff (f : Field) : f.isKnown = true ↔ f.type ∈ ["text", "number", "boolean", "date"] := by
  rw [Field.isKnown, FieldKind.ofName?, List.find?_isSome]
  simp only [List.mem_cons, List.not_mem_nil, or_false, exists_eq_or_imp, exists_eq_left, FieldKind.name,
    decide_eq_true_eq, eq_comm (b := f.type)]

namespace Grammar

/-! ## Rules that narrow others -/

/-- the first rule reads what the second reads, provided that it has the property -/
def Narrows {α : Type} (P : α → Prop) (R R' : Rule α) : Prop := ∀ ts sk a, R ts sk a ↔ R' ts sk a ∧ P a

section

variable {α β : Type} {P : α → Prop} {P' : β → Prop} {R R' : Rule α}

theorem narrows_self (h : ∀ ts sk a, R ts sk a → P a) : Narrows P R R := by
  intro ts sk a
  constructor
  · intro hR
    exact ⟨hR, h ts sk a hR⟩
  · intro hR
    exact hR.1

/-- what follows a narrowed rule must show the property in its own value -/
theorem narrows_bind {Q : α → Rule β} (hR : Narrows P R R') (hQ : ∀ a ts sk b, Q a ts sk b → (P' b ↔ P a)) :
    Narrows P' (R >>= Q) (R' >>= Q) := by
  intro ts sk b
  rw [Rule.bind_iff, Rule.bind_iff]
  constructor
  · intro h
    obtain ⟨a, ts₁, ts₂, sk₁, sk₂, rfl, rfl, hfirst, hrest⟩ := h
    obtain ⟨hfirst', ha⟩ := (hR _ _ _).1 hfirst
    exact ⟨⟨a, ts₁, ts₂, sk₁, sk₂, rfl, rfl, hfirst', hrest⟩, (hQ _ _ _ _ hrest).2 ha⟩
  · intro h
    obtain ⟨⟨a, ts₁, ts₂, sk₁, sk₂, rfl, rfl, hfirst, hrest⟩, hb⟩ := h
    exact ⟨a, ts₁, ts₂, sk₁, sk₂, rfl, rfl, (hR _ _ _).2 ⟨hfirst, (hQ _ _ _ _ hrest).1 hb⟩, hrest⟩

theorem narrows_then {S : Rule α} {Q Q' : α → Rule β} (hQ : ∀ a, Narrows P' (Q a) (Q' a)) :
    Narrows P' (S >>= Q) (S >>= Q') := by
  intro ts sk b
  rw [Rule.bind_iff, Rule.bind_iff]
  constructor
  · intro h
    obtain ⟨a, ts₁, ts₂, sk₁, sk₂, rfl, rfl, hfirst, hrest⟩ := h
    obtain ⟨hrest', hb⟩ := (hQ a _ _ _).1 hrest
    exact ⟨⟨a, ts₁, ts₂, sk₁, sk₂, rfl, rfl, hfirst, hrest'⟩, hb⟩
  · intro h
    obtain ⟨⟨a, ts₁, ts₂, sk₁, sk₂, rfl, rfl, hfirst, hrest⟩, hb⟩ := h
    exact ⟨a, ts₁, ts₂, sk₁, sk₂, rfl, rfl, hfirst, (hQ a _ _ _).2 ⟨hrest, hb⟩⟩

theorem narrows_either {Q Q' : Rule α} (hR : Narrows P R R') (hQ : Narrows P Q Q') :
    Narrows P (.either R Q) (.either R' Q') := by
  intro ts sk a
  rw [Rule.either_iff, Rule.either_iff, hR, hQ, or_and_right]

theorem narrows_star (hR : Narrows P R R') : Narrows (∀ a ∈ ·, P a) (Rule.star R) (Rule.star R') := by
  intro ts sk as
  constructor
  · intro h
    induction h with
    | nil => exact ⟨.nil, by simp⟩
    | cons hitem _ ih =>
      obtain ⟨hitem', ha⟩ := (hR _ _ _).1 hitem
      exact ⟨.cons hitem' ih.1, List.forall_mem_cons.2 ⟨ha, ih.2⟩⟩
  · intro h
    obtain ⟨h, has⟩ := h
    induction h with
    | nil => exact .nil
    | cons hitem _ ih =>
      obtain ⟨ha, has⟩ := List.forall_mem_cons.1 has
      exact .cons ((hR _ _ _).2 ⟨hitem, ha⟩) (ih has)

end

/-! ## The check of types -/

section

variable {o o' : Options} (hlenient : o'.lenient = o.lenient) (hstrict : o'.strictTypes = false)

include hlenient in
theorem modifierRule_lenient : modifierRule o' = modifierRule o := by
  have hstray : StrayWord o' = StrayWord o := by
    funext t
    rw [StrayWord, StrayWord, hlenient]
  rw [modifierRule, modifierRule, hstray]

include hlenient hstrict in
theorem narrows_field : Narrows (fun f => o.strictTypes = true → f.isKnown = true) (fieldRule o) (fieldRule o') := by
  unfold fieldRule
  rw [modifierRule_lenient hlenient]
  refine narrows_then fun _ => narrows_then fun name => narrows_then fun _ => narrows_then fun type => ?_
  refine narrows_bind (P := fun _ => o.strictTypes = true → (FieldKind.ofName? type.value).isSome = true) ?_ ?_
  · intro ts sk u
    simp [Rule.given, hstrict, and_comm]
  · intro _ ts sk f h
    obtain ⟨ms, _, us, _, _, -, -, -, h⟩ := h
    obtain ⟨_, _, -, -, -, -, -, rfl⟩ := (Rule.token_bind_iff _ _ us _ f).1 h
    exact Iff.rfl

include hlenient hstrict in
theorem narrows_modelPart :
    Narrows (fun x => o.strictTypes = true → ∀ f ∈ x, f.isKnown = true) (modelPartRule o) (modelPartRule o') := by
  have hstray : StrayInModel o' = StrayInModel o := by
    funext t
    rw [StrayInModel, StrayInModel, hlenient]
  unfold modelPartRule
  rw [hstray]
  refine narrows_either (narrows_bind (narrows_field hlenient hstrict) ?_) (narrows_self ?_)
  · intro f _ _ x h
    obtain ⟨-, -, rfl⟩ := h
    simp
  · intro _ _ x h
    obtain ⟨_, -, -, -, rfl⟩ := h
    simp

include hlenient hstrict in
theorem narrows_model : Narrows (fun m => o.strictTypes = true → m.Known) (modelRule o) (modelRule o') := by
  unfold modelRule
  refine narrows_then fun _ => narrows_then fun name => narrows_then fun _ => ?_
  refine narrows_bind (narrows_star (narrows_modelPart hlenient hstrict)) ?_
  intro parts ts sk m h
  obtain ⟨_, _, -, -, -, -, -, rfl⟩ := (Rule.token_bind_iff _ _ ts sk m).1 h
  simp only [Model.Known, List.mem_filterMap, id]
  constructor
  · intro hm x hx hs f hf
    exact hm hs f ⟨x, hx, hf⟩
  · intro hparts hs f hf
    obtain ⟨x, hx, hf⟩ := hf
    exact hparts x hx hs f hf

include hlenient hstrict in
theorem narrows_declaration :
    Narrows (fun d => o.strictTypes = true → ∀ m ∈ d.model?, m.Known) (declarationRule o) (declarationRule o') := by
  have hstray : StrayOutside o' = StrayOutside o := by
    funext t
    rw [StrayOutside, StrayOutside, hlenient]
  unfold declarationRule
  rw [hstray]
  refine narrows_either (narrows_either (narrows_bind (narrows_model hlenient hstrict) ?_)
    (narrows_either (narrows_self ?_) (narrows_self ?_))) (narrows_self ?_)
  · intro m _ _ d h
    obtain ⟨-, -, rfl⟩ := h
    simp [Declaration.model?]
  · intro ts sk d h
    obtain ⟨c, -, rfl⟩ := (Rule.bind_pure_iff _ _ ts sk d).1 h
    simp [Declaration.model?]
  · intro ts sk d h
    obtain ⟨p, -, rfl⟩ := (Rule.bind_pure_iff _ _ ts sk d).1 h
    simp [Declaration.model?]
  · intro _ _ d h
    obtain ⟨_, -, -, -, rfl⟩ := h
    simp [Declaration.model?]

end

theorem known_appOf (ds : List Declaration) : (appOf ds).Known ↔ ∀ d ∈ ds, ∀ m ∈ d.model?, m.Known := by
  simp only [App.Known, appOf, List.mem_filterMap]
  constructor
  · intro h d hd m hm
    exact h m ⟨d, hd, hm⟩
  · intro h m hm
    obtain ⟨d, hd, hm⟩ := hm
    exact h d hd m hm

/-- **Strict types refuse and change nothing.** Reading gives an application exactly when it does so with any types and the
application has the types that are asked for. -/
theorem app_eq_ok_iff_known (o o' : Options) (hlenient : o'.lenient = o.lenient) (hstrict : o'.strictTypes = false)
    {ts : List Token} (hts : Ended ts) (a : App) :
    (app o (Session.start ts)).1 = .ok a ↔
      (app o' (Session.start ts)).1 = .ok a ∧ (o.strictTypes = true → a.Known) := by
  have hnarrows := narrows_star (narrows_declaration hlenient hstrict)
  have hasks : ∀ ds, (∀ d ∈ ds, o.strictTypes = true → ∀ m ∈ d.model?, m.Known) ↔
      (o.strictTypes = true → (appOf ds).Known) := by
    intro ds
    rw [known_appOf]
    exact ⟨fun h hs d hd => h d hd hs, fun h d hd hs => h hs d hd⟩
  constructor
  · intro h
    obtain ⟨body, e, sk, ds, rfl, he, hstar, rfl, -⟩ := (app_eq_ok o ts hts a _).1 (Prod.ext h rfl)
    obtain ⟨hstar', hknown⟩ := (hnarrows _ _ _).1 hstar
    refine ⟨?_, (hasks ds).1 hknown⟩
    rw [(app_eq_ok o' _ hts _ _).2 ⟨body, e, sk, ds, rfl, he, hstar', rfl, rfl⟩]
  · intro h
    obtain ⟨h, hknown⟩ := h
    obtain ⟨body, e, sk, ds, rfl, he, hstar, rfl, -⟩ := (app_eq_ok o' ts hts a _).1 (Prod.ext h rfl)
    have hstar' := (hnarrows _ _ _).2 ⟨hstar, (hasks ds).2 hknown⟩
    rw [(app_eq_ok o _ hts _ _).2 ⟨body, e, sk, ds, rfl, he, hstar', rfl, rfl⟩]

end Grammar

end Pagewright
