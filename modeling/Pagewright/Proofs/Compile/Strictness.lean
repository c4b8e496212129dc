/-
Strictness only rejects. Three switches make a compilation stricter: one stops at tokens that would be skipped, one at types
that are not known, one at field names that would stand for text fields. Whatever is compiled with a switch set is compiled
without it to the same artifacts and warnings (`strictness_only_rejects`).

The first two switches act in reading, the third wherever a generator looks names up. `Persists g g'` says that a
generator, if it gives a result at all, gives the same with the looser options, warnings included; it is carried from the
look-up to the whole compilation.
-/
import Pagewright.Proofs.Artifact.Success
import Pagewright.Proofs.Compile.Outcome
import Pagewright.Proofs.Grammar.Strictness

namespace Pagewright

open Pagewright.Grammar

/-- the second options are at most as strict as the first in each switch, and have the same texts -/
structure Options.Loosens (o o' : Options) : Prop where
  lenient : o.lenient = true → o'.lenient = true
  strictTypes : o'.strictTypes = true → o.strictTypes = true
  validateFieldRefs : o'.validateFieldRefs = true → o.validateFieldRefs = true
  appTitle : o'.appTitle = o.appTitle
  footerText : o'.footerText = o.footerText

/-! ## Reading -/

theorem app_loosens {o o' : Options} (ho : o.Loosens o') {ts : List Token} (hts : Ended ts) {a : App}
    (h : (app o (Session.start ts)).1 = .ok a) : (app o' (Session.start ts)).1 = .ok a := by
  let p : Options := { o with strictTypes := false }
  let p' : Options := { o' with strictTypes := false }
  obtain ⟨hp, hknown⟩ := (app_eq_ok_iff_known o p rfl rfl hts a).1 h
  have hknown' : o'.strictTypes = true → a.Known := fun hs => hknown (ho.strictTypes hs)
  cases hl : o.lenient with
  | true =>
    have hlenient : p.lenient = o'.lenient := hl.trans (ho.lenient hl).symm
    exact (app_eq_ok_iff_known o' p hlenient rfl hts a).2 ⟨hp, hknown'⟩
  | false =>
    obtain ⟨s, hs, -⟩ := app_of_strict p p' hl rfl hts (Prod.ext hp rfl)
    refine (app_eq_ok_iff_known o' p' rfl rfl hts a).2 ⟨?_, hknown'⟩
    rw [hs]

/-! ## Generating -/

namespace Generated

/-- the second generates the same as the first, if the first gives a result -/
def Persists {α : Type} (g g' : Generated α) : Prop := ∀ a, g.result = .ok a → g' = g

section

variable {α β : Type}

theorem persists_refl (g : Generated α) : Persists g g := fun _ _ => rfl

theorem persists_resolved {r r' : Except UnknownReference α} (h : ∀ a, r = .ok a → r' = .ok a) :
    Persists (resolved r) (resolved r') := by
  intro a ha
  have hr : r = .ok a := resolved_eq_ok.1 ha
  rw [h a hr, hr]

theorem persists_bind {g g' : Generated α} {f f' : α → Generated β} (hg : Persists g g')
    (hf : ∀ a, Persists (f a) (f' a)) : Persists (g >>= f) (g' >>= f') := by
  intro b hb
  obtain ⟨a, ha, hfa⟩ := bind_eq_ok.1 hb
  show g'.andThen f' = g.andThen f
  rw [hg a ha]
  simp only [andThen, ha, hf a b hfa]

theorem persists_map {g g' : Generated α} (hg : Persists g g') (f : α → β) :
    Persists (do let a ← g; pure (f a)) (do let a ← g'; pure (f a)) :=
  persists_bind hg fun _ => persists_refl _

theorem persists_each {f f' : α → Generated β} (hf : ∀ a, Persists (f a) (f' a)) (l : List α) :
    Persists (each f l) (each f' l) := by
  induction l with
  | nil => exact persists_refl _
  | cons a l ih => exact persists_bind (hf a) fun b => persists_map ih _

end

end Generated

open Generated

section

variable {o o' : Options} (ho : o.Loosens o') (a : App)

include ho

theorem resolveField_loosens {c : Component} {m : Model} {name : String} {f : Field}
    (h : resolveField o c m name = .ok f) : resolveField o' c m name = .ok f := by
  unfold resolveField at h ⊢
  cases hf : m.field? name with
  | some g =>
    rw [hf] at h
    exact h
  | none =>
    rw [hf] at h
    have hrefs := ho.validateFieldRefs
    cases hv : o.validateFieldRefs with
    | true => simp [hv] at h
    | false => simp_all

theorem resolveNames_loosens {c : Component} {m : Model} {names : List String} {fs : List Field}
    (h : resolveNames o c m names = .ok fs) : resolveNames o' c m names = .ok fs := by
  induction names generalizing fs with
  | nil => exact h
  | cons n names ih =>
    simp only [resolveNames] at h ⊢
    cases hf : resolveField o c m n with
    | error e =>
      rw [hf] at h
      cases h
    | ok f =>
      cases hrest : resolveNames o c m names with
      | error e =>
        rw [hf, hrest] at h
        cases h
      | ok rest =>
        rw [hf, hrest] at h
        rw [resolveField_loosens ho hf, ih hrest]
        exact h

theorem lookupFields_loosens {c : Component} {fs : List Field} (h : a.lookupFields o c = .ok fs) :
    a.lookupFields o' c = .ok fs := by
  unfold App.lookupFields at h ⊢
  cases hm : a.lookupModel c with
  | error e =>
    rw [hm] at h
    cases h
  | ok m =>
    rw [hm] at h
    change (if c.binding.fields.isEmpty then pure m.fields else resolveNames o c m c.binding.fields) = _ at h
    change (if c.binding.fields.isEmpty then pure m.fields else resolveNames o' c m c.binding.fields) = _
    split_ifs at h ⊢
    · exact h
    · exact resolveNames_loosens ho h

theorem persists_bindingHtml (c : Component) : Persists (a.bindingHtml o c) (a.bindingHtml o' c) :=
  persists_bind (persists_resolved fun _ => lookupFields_loosens ho a) fun _ => persists_refl _

theorem persists_componentHtml (p : Page) (name : String) :
    Persists (a.componentHtml o p name) (a.componentHtml o' p name) := by
  unfold App.componentHtml
  cases a.component? name with
  | none => exact persists_refl _
  | some c => exact persists_map (persists_bindingHtml ho a c) _

theorem persists_markup : Persists (a.markup o) (a.markup o') := by
  unfold App.markup
  cases a.landingPage? with
  | some p =>
    unfold App.pageHtml
    rw [ho.footerText]
    exact persists_map (persists_each (fun name => persists_map (persists_componentHtml ho a p name) _) _) _
  | none =>
    unfold App.fallbackHtml
    rw [ho.footerText, ho.appTitle]
    refine persists_bind (persists_each (fun b => persists_bindingHtml ho a _) _) fun forms => ?_
    exact persists_map (persists_each (fun b => persists_bindingHtml ho a _) _) _

theorem persists_script : Persists (a.script o) (a.script o') := by
  have hfields : ∀ (c : Component) (g : List Field → String), Persists
      (do let fs ← Generated.resolved (a.lookupFields o c); pure (g fs))
      (do let fs ← Generated.resolved (a.lookupFields o' c); pure (g fs)) := fun c g =>
    persists_map (persists_resolved fun _ => lookupFields_loosens ho a) g
  have hpage : ∀ p, Persists (Script.pageScript a o p) (Script.pageScript a o' p) := by
    intro p
    unfold Script.pageScript Script.pageLines
    rw [ho.footerText]
    exact persists_map (persists_each (fun name => persists_map (persists_componentHtml ho a p name) _) _) _
  refine persists_bind (persists_refl _) fun models => ?_
  refine persists_bind (persists_each (fun b => hfields _ _) _) fun forms => ?_
  refine persists_bind (persists_each (fun b => hfields _ _) _) fun lists => ?_
  refine persists_bind (persists_each (fun b => hfields _ _) _) fun views => ?_
  exact persists_map (persists_each hpage _) _

theorem persists_generate : Persists (a.generate o) (a.generate o') :=
  persists_bind (persists_markup ho a) fun _ => persists_map (persists_script ho a) _

theorem compileApp_loosens {r : Artifacts} (h : (compileApp o a).1 = .ok r) : (compileApp o' a).1 = .ok r := by
  have hpersists := persists_generate ho a
  unfold compileApp at h ⊢
  cases hg : (a.generate o).result with
  | error e =>
    simp only [hg] at h
    cases h
  | ok x =>
    rw [hpersists x hg]
    exact h

end

/-- **Strictness only rejects.** What is compiled under some options is compiled to the same artifacts, warnings included,
under options that are at most as strict in each switch. And with strict types an application is read exactly when it is
read with any types and every field of it has one of the four known ones. -/
theorem strictness_only_rejects (o o' : Options) (file file' : Option String) (source : String) :
    (o.Loosens o' → ∀ r, (compileSource o file source).1 = .ok r → (compileSource o' file' source).1 = .ok r) ∧
      (o'.lenient = o.lenient → o.strictTypes = true → o'.strictTypes = false → ∀ a,
        (readApp o file source).1 = .ok a ↔ (readApp o' file' source).1 = .ok a ∧
          ∀ m ∈ a.models, ∀ f ∈ m.fields, f.type ∈ ["text", "number", "boolean", "date"]) := by
  constructor
  · intro ho r h
    obtain ⟨a, hread, hr⟩ := (compileSource_eq_ok_iff o file r).1 h
    obtain ⟨ts, hts, happ⟩ := (readApp_eq_ok_iff o file a).1 hread
    have happ' := app_loosens ho (ended_shaped_of_tokenize hts).1 happ
    exact (compileSource_eq_ok_iff o' file' r).2
      ⟨a, (readApp_eq_ok_iff o' file' a).2 ⟨ts, hts, happ'⟩, compileApp_loosens ho a hr⟩
  · intro hlenient hs hs' a
    have hknown : (∀ m ∈ a.models, ∀ f ∈ m.fields, f.type ∈ ["text", "number", "boolean", "date"]) ↔ a.Known := by
      simp only [← Field.isKnown_iff]
      exact Iff.rfl
    rw [hknown, readApp_eq_ok_iff, readApp_eq_ok_iff]
    constructor
    · intro h
      obtain ⟨ts, hts, happ⟩ := h
      obtain ⟨happ', ha⟩ := (app_eq_ok_iff_known o o' hlenient hs' (ended_shaped_of_tokenize hts).1 a).1 happ
      exact ⟨⟨ts, hts, happ'⟩, ha hs⟩
    · intro h
      obtain ⟨⟨ts, hts, happ⟩, ha⟩ := h
      exact ⟨ts, hts, (app_eq_ok_iff_known o o' hlenient hs' (ended_shaped_of_tokenize hts).1 a).2 ⟨happ, fun _ => ha⟩⟩

/-- a model and a list of its records -/
def listSource : String := "model M \x7b field x: text; \x7d list L(M) \x7b x \x7d"

def listApp : App := { App.empty with models := [⟨"M", [⟨"x", "text", false, none⟩]⟩], lists := [⟨"L", "M", ["x"]⟩] }

/-- all three switches as strict as they can be -/
def Options.strictest : Options := { standard with lenient := false, strictTypes := true }

/-- all three switches as loose as they can be -/
def Options.loosest : Options := { standard with validateFieldRefs := false }

/-- the source is compiled with the strictest options and with the loosest, to the same artifacts, and its types are known -/
theorem strictness_only_rejects_list :
    (∃ r, (compileSource .strictest none listSource).1 = .ok r ∧ (compileSource .loosest none listSource).1 = .ok r) ∧
      (readApp { Options.loosest with strictTypes := true } none listSource).1 = .ok listApp := by
  have hstrict : (readApp .strictest none listSource).1 = .ok listApp := by decide +kernel
  have hloose : (readApp .loosest none listSource).1 = .ok listApp := by decide +kernel
  obtain ⟨r, hr⟩ : ∃ r, (compileApp .strictest listApp).1 = .ok r := exists_compileApp_eq_ok rfl rfl
  have hcompiled := (compileSource_eq_ok_iff _ none r).2 ⟨listApp, hstrict, hr⟩
  have hloosens : Options.strictest.Loosens .loosest := ⟨by decide, by decide, by decide, rfl, rfl⟩
  refine ⟨⟨r, hcompiled, (strictness_only_rejects _ _ none none listSource).1 hloosens r hcompiled⟩, ?_⟩
  have hiff := (strictness_only_rejects { Options.loosest with strictTypes := true } .loosest none none listSource).2
  exact (hiff rfl rfl rfl listApp).2 ⟨hloose, by simp [listApp]⟩

end Pagewright
