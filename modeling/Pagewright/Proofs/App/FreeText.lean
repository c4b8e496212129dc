/-
Free text. The titles of pages, the defaults that are texts, and the two texts among the options are written by hand and
may hold anything. Two trees that are equal without them (`App.withoutText`) declare the same names in the same places,
so looking something up gives the same fault in both or the same thing up to free text (`App.agree_lookupFields`).

`Agree R` is the two-run relation of results: the same error, or two values related by `R`.
-/
import Mathlib.Tactic
import Pagewright.Artifact.Markup

namespace Pagewright

/-! ## Trees without free text -/

/-- a default, without the text it may be -/
def Literal.withoutText : Literal → Literal
  | .text _ => .text ""
  | l => l

def Field.withoutText (f : Field) : Field := { f with default := f.default.map Literal.withoutText }

def Model.withoutText (m : Model) : Model := { m with fields := m.fields.map Field.withoutText }

def Page.withoutText (p : Page) : Page := { p with title := "" }

/-- an application without titles and texts of defaults -/
def App.withoutText (a : App) : App :=
  { a with models := a.models.map Model.withoutText, pages := a.pages.map Page.withoutText }

/-- options without the two texts of the page -/
def Options.withoutText (o : Options) : Options := { o with appTitle := "", footerText := "" }

/-- a page with a form for entries, with its two free texts left open -/
def App.guestbook (title text : String) : App :=
  ⟨[⟨"Entry", [⟨"words", "text", true, some (.text text)⟩]⟩], [⟨"Sign", "Entry", []⟩], [], [⟨"Entries", "Entry", []⟩],
    [⟨"Main", title, ["Sign", "Entries"]⟩]⟩

/-- a form for a number with a default -/
def App.tally (n : Int) : App :=
  ⟨[⟨"Tally", [⟨"count", "number", true, some (.int n)⟩]⟩], [⟨"Count", "Tally", []⟩], [], [], []⟩

/-- lists that are equal item by item up to `f` -/
theorem forall₂_of_map_eq {α β : Type} {f : α → β} {l m : List α} (h : l.map f = m.map f) :
    List.Forall₂ (fun x y => f x = f y) l m := by
  rw [← List.forall₂_eq_eq_eq, List.forall₂_map_left_iff, List.forall₂_map_right_iff] at h
  exact h

@[simp] theorem Literal.withoutText_eq_bool {l : Literal} {b : Bool} : l.withoutText = .bool b ↔ l = .bool b := by
  cases l <;> simp [Literal.withoutText]

/-- fields that are equal without text differ at most in their defaults -/
theorem Field.eq_of_withoutText {f g : Field} (h : f.withoutText = g.withoutText) :
    f.name = g.name ∧ f.type = g.type ∧ f.required = g.required ∧
      f.default.map Literal.withoutText = g.default.map Literal.withoutText := by
  obtain ⟨fn, ft, fr, fd⟩ := f
  obtain ⟨gn, gt, gr, gd⟩ := g
  simpa [Field.withoutText] using h

theorem Field.kind_eq_of_withoutText {f g : Field} (h : f.withoutText = g.withoutText) : f.kind = g.kind := by
  obtain ⟨-, htype, -, -⟩ := Field.eq_of_withoutText h
  rw [Field.kind, Field.kind, htype]

theorem Literal.isWritable_withoutText (l : Literal) : l.withoutText.toValue.isWritable = l.toValue.isWritable := by
  cases l <;> rfl

theorem Field.isWritable_withoutText (f : Field) : f.withoutText.isWritable = f.isWritable := by
  obtain ⟨name, type, required, default⟩ := f
  cases default with
  | none => rfl
  | some l => exact l.isWritable_withoutText

/-- whether fields can be written, or shown, is a matter of their defaults that are no texts -/
theorem all_eq_of_withoutText {p : Field → Bool} (hp : ∀ f, p f.withoutText = p f) {fs gs : List Field}
    (h : fs.map Field.withoutText = gs.map Field.withoutText) : fs.all p = gs.all p := by
  have hdrop : ∀ l : List Field, (l.map Field.withoutText).all p = l.all p := by
    intro l
    simp [List.all_map, Function.comp_def, hp]
  rw [← hdrop fs, h, hdrop gs]

theorem Fragment.showsWritable_withoutText (f : Field) :
    Fragment.showsWritable f.withoutText = Fragment.showsWritable f := by
  have hkind : f.withoutText.kind = f.kind := rfl
  rw [Fragment.showsWritable, Fragment.showsWritable, f.isWritable_withoutText, hkind]

/-- models that are equal without text have the same name, and the same fields up to text -/
theorem Model.eq_of_withoutText {m n : Model} (h : m.withoutText = n.withoutText) :
    m.name = n.name ∧ m.fields.map Field.withoutText = n.fields.map Field.withoutText := by
  obtain ⟨mn, mf⟩ := m
  obtain ⟨nn, nf⟩ := n
  simpa [Model.withoutText] using h

/-- pages that are equal without text differ at most in their titles -/
theorem Page.eq_of_withoutText {p q : Page} (h : p.withoutText = q.withoutText) :
    p.name = q.name ∧ p.components = q.components := by
  obtain ⟨pn, pt, pc⟩ := p
  obtain ⟨qn, qt, qc⟩ := q
  simpa [Page.withoutText] using h

/-! ## Results of two runs -/

/-- the same error, or two values that are related -/
inductive Agree {ε α β : Type} (R : α → β → Prop) : Except ε α → Except ε β → Prop
  | ok {a : α} {b : β} (h : R a b) : Agree R (.ok a) (.ok b)
  | error (e : ε) : Agree R (.error e) (.error e)

namespace Agree

/-- results that become equal are related by becoming equal -/
theorem of_map_eq {ε α β γ : Type} {f : α → γ} {g : β → γ} {x : Except ε α} {y : Except ε β} (h : x.map f = y.map g) :
    Agree (fun a b => f a = g b) x y := by
  cases x with
  | error e =>
    cases y with
    | error e' =>
      have he : e = e' := by simpa [Except.map] using h
      exact he ▸ .error e
    | ok b => simp [Except.map] at h
  | ok a =>
    cases y with
    | error e' => simp [Except.map] at h
    | ok b =>
      have hab : f a = g b := by simpa [Except.map] using h
      exact .ok hab

theorem mono {ε α β : Type} {R S : α → β → Prop} (hRS : ∀ a b, R a b → S a b) {x : Except ε α} {y : Except ε β}
    (h : Agree R x y) : Agree S x y := by
  cases h with
  | ok h => exact .ok (hRS _ _ h)
  | error e => exact .error e

/-- one result agrees with itself -/
theorem same {ε α : Type} {R : α → α → Prop} (h : ∀ a, R a a) {x : Except ε α} : Agree R x x := by
  cases x with
  | ok a => exact .ok (h a)
  | error e => exact .error e

/-- what was looked up agrees when the lookups do -/
theorem resolved {α β : Type} {R : α → β → Prop} {x : Except UnknownReference α} {y : Except UnknownReference β}
    (h : Agree R x y) : Agree R (Generated.resolved x).result (Generated.resolved y).result := by
  cases h with
  | ok h => exact .ok h
  | error r => exact .error (GenerationFault.reference r)

/-- a sequence agrees when its first parts do and what follows agrees on related values -/
theorem bind {α α' β β' : Type} {R : α → α' → Prop} {S : β → β' → Prop} {g : Generated α} {g' : Generated α'}
    {f : α → Generated β} {f' : α' → Generated β'} (hg : Agree R g.result g'.result)
    (hf : ∀ a a', R a a' → Agree S (f a).result (f' a').result) : Agree S (g >>= f).result (g' >>= f').result := by
  show Agree S (Generated.andThen g f).result (Generated.andThen g' f').result
  unfold Generated.andThen
  revert hg
  generalize g.result = x
  generalize g'.result = x'
  intro hg
  cases hg with
  | ok h => exact hf _ _ h
  | error e => exact .error e

/-- generating from every item agrees when it does item by item -/
theorem each {α α' β β' : Type} {R : α → α' → Prop} {S : β → β' → Prop} {f : α → Generated β} {f' : α' → Generated β'}
    (hf : ∀ a a', R a a' → Agree S (f a).result (f' a').result) {l : List α} {l' : List α'} (hl : List.Forall₂ R l l') :
    Agree (List.Forall₂ S) (Generated.each f l).result (Generated.each f' l').result := by
  induction hl with
  | nil => exact .ok .nil
  | cons ha _ ih =>
    refine bind (hf _ _ ha) fun b b' hb => ?_
    refine bind ih fun bs bs' hbs => ?_
    exact .ok (.cons hb hbs)

/-- the same items, one by one -/
theorem each_same {α β β' : Type} {S : β → β' → Prop} {f : α → Generated β} {f' : α → Generated β'} {l : List α}
    (hf : ∀ a ∈ l, Agree S (f a).result (f' a).result) :
    Agree (List.Forall₂ S) (Generated.each f l).result (Generated.each f' l).result := by
  refine each (R := fun a a' => a ∈ l ∧ a = a') (fun a a' h => ?_) ?_
  · obtain ⟨ha, rfl⟩ := h
    exact hf a ha
  · exact List.forall₂_same.2 fun a ha => ⟨ha, rfl⟩

/-- what is related is what was returned -/
theorem with_eq {ε α β : Type} {R : α → β → Prop} {x : Except ε α} {y : Except ε β} (h : Agree R x y) :
    Agree (fun a b => R a b ∧ x = .ok a ∧ y = .ok b) x y := by
  cases h with
  | ok h => exact .ok ⟨h, rfl, rfl⟩
  | error e => exact .error e

end Agree

/-! ## Lookups -/

theorem Model.field?_withoutText (m : Model) (n : String) : m.withoutText.field? n = (m.field? n).map Field.withoutText :=
  List.find?_map ..

theorem App.model?_withoutText (a : App) (n : String) : a.withoutText.model? n = (a.model? n).map Model.withoutText :=
  List.find?_map ..

theorem firstOfEachName_withoutText (seen : List String) (ms : List Model) :
    firstOfEachName seen (ms.map Model.withoutText) = (firstOfEachName seen ms).map Model.withoutText := by
  induction ms generalizing seen with
  | nil => rfl
  | cons m ms ih =>
    simp only [List.map_cons, firstOfEachName, ih, show m.withoutText.name = m.name from rfl]
    split
    · rfl
    · rfl

theorem resolveField_withoutText (o : Options) (c : Component) (m : Model) (n : String) :
    resolveField o.withoutText c m.withoutText n = (resolveField o c m n).map Field.withoutText := by
  unfold resolveField
  rw [m.field?_withoutText]
  cases m.field? n with
  | some f => rfl
  | none =>
    show (if o.validateFieldRefs then _ else _) = _
    cases o.validateFieldRefs <;> rfl

theorem resolveNames_withoutText (o : Options) (c : Component) (m : Model) (ns : List String) :
    resolveNames o.withoutText c m.withoutText ns = (resolveNames o c m ns).map (List.map Field.withoutText) := by
  induction ns with
  | nil => rfl
  | cons n ns ih =>
    simp only [resolveNames, ih, resolveField_withoutText]
    cases resolveField o c m n with
    | error e => rfl
    | ok f => cases resolveNames o c m ns <;> rfl

namespace App

/-- looking up the fields of a binding commutes with dropping free text -/
theorem lookupFields_withoutText (a : App) (o : Options) (c : Component) :
    a.withoutText.lookupFields o.withoutText c = (a.lookupFields o c).map (List.map Field.withoutText) := by
  unfold lookupFields lookupModel
  rw [a.model?_withoutText]
  cases a.model? c.binding.model with
  | none => rfl
  | some m =>
    show (if c.binding.fields.isEmpty then _ else _) = Except.map _ (if c.binding.fields.isEmpty then _ else _)
    cases c.binding.fields.isEmpty with
    | true => rfl
    | false => exact resolveNames_withoutText o c m c.binding.fields

section

variable {a b : App} {o o' : Options}

/-- the fields of a binding are the same up to free text, or it has the same fault -/
theorem agree_lookupFields (hab : a.withoutText = b.withoutText) (ho : o.withoutText = o'.withoutText) (c : Component) :
    Agree (fun fs gs => fs.map Field.withoutText = gs.map Field.withoutText) (a.lookupFields o c) (b.lookupFields o' c) := by
  refine Agree.of_map_eq ?_
  rw [← a.lookupFields_withoutText, ← b.lookupFields_withoutText, hab, ho]

/-- without free text, bindings are all there is besides models and pages -/
theorem component?_eq_of_withoutText (hab : a.withoutText = b.withoutText) : a.component? = b.component? := by
  have h : a.withoutText.component? = b.withoutText.component? := by rw [hab]
  exact h

theorem distinctModels_eq_of_withoutText (hab : a.withoutText = b.withoutText) :
    a.distinctModels.map Model.withoutText = b.distinctModels.map Model.withoutText := by
  have h : a.models.map Model.withoutText = b.models.map Model.withoutText := congrArg App.models hab
  unfold distinctModels
  rw [← firstOfEachName_withoutText, h, firstOfEachName_withoutText]

theorem displaysOf_eq_of_withoutText (hab : a.withoutText = b.withoutText) : a.displaysOf = b.displaysOf := by
  have h : a.withoutText.displaysOf = b.withoutText.displaysOf := by rw [hab]
  exact h

theorem bindings_eq_of_withoutText (hab : a.withoutText = b.withoutText) : a.bindings = b.bindings := by
  have h : a.withoutText.bindings = b.withoutText.bindings := by rw [hab]
  exact h

end

end App

/-! ## Fragments -/

/-- a table shows only the names of its fields -/
theorem Fragment.list_congr (b : Binding) {fs gs : List Field}
    (h : fs.map Field.withoutText = gs.map Field.withoutText) : Fragment.list b fs = Fragment.list b gs := by
  have hdrop : ∀ l : List Field, Fragment.list b (l.map Field.withoutText) = Fragment.list b l := by
    intro l
    simp [Fragment.list, Field.withoutText, Function.comp_def]
  rw [← hdrop fs, h, hdrop gs]

/-- the fragment of a binding is the same up to what `R` says of forms -/
theorem App.agree_bindingHtml {a b : App} {o o' : Options} (hab : a.withoutText = b.withoutText)
    (ho : o.withoutText = o'.withoutText) {R : String → String → Prop} (hrefl : ∀ s, R s s)
    (hform : ∀ (c : Binding) (fs gs : List Field), fs.map Field.withoutText = gs.map Field.withoutText →
      R (Fragment.form c fs) (Fragment.form c gs)) (c : Component) :
    Agree R (a.bindingHtml o c).result (b.bindingHtml o' c).result := by
  refine Agree.bind (App.agree_lookupFields hab ho c).resolved fun fs gs hfs => ?_
  obtain ⟨k, d⟩ := c
  cases k with
  | form =>
    have hrequire : Agree (fun _ _ => True) (Generated.require (fs.all Fragment.showsWritable)).result
        (Generated.require (gs.all Fragment.showsWritable)).result := by
      rw [all_eq_of_withoutText Fragment.showsWritable_withoutText hfs]
      exact Agree.same fun _ => trivial
    exact Agree.bind hrequire fun _ _ _ => .ok (hform d fs gs hfs)
  | list =>
    have hlist := Fragment.list_congr d hfs
    show Agree R (.ok (Fragment.list d fs)) (.ok (Fragment.list d gs))
    rw [hlist]
    exact .ok (hrefl _)
  | view =>
    show Agree R (.ok (Fragment.view d)) (.ok (Fragment.view d))
    exact .ok (hrefl _)

/-- a name on a page means the same in both, and its fragment is the same up to what `R` says of forms -/
theorem App.agree_componentHtml {a b : App} {o o' : Options} (hab : a.withoutText = b.withoutText)
    (ho : o.withoutText = o'.withoutText) {R : String → String → Prop} (hrefl : ∀ s, R s s)
    (hform : ∀ (c : Binding) (fs gs : List Field), fs.map Field.withoutText = gs.map Field.withoutText →
      R (Fragment.form c fs) (Fragment.form c gs)) (p q : Page) (name : String) :
    Agree (fun r s => r.1 = s.1 ∧ R r.2 s.2) (a.componentHtml o p name).result (b.componentHtml o' q name).result := by
  unfold App.componentHtml
  rw [App.component?_eq_of_withoutText hab]
  cases b.component? name with
  | none => exact .ok ⟨rfl, hrefl _⟩
  | some c =>
    refine Agree.bind (App.agree_bindingHtml hab ho hrefl hform c) fun s t hst => ?_
    exact .ok ⟨rfl, hst⟩

end Pagewright
