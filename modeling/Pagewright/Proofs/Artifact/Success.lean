/-
What artifacts are made of. A generator that gives a result got every part of it: the parts are read off the result here,
once for each generator, so that no proof about artifacts has to open a generator again.
-/
import Mathlib.Tactic
import Pagewright.Proofs.App.FreeText
import Pagewright.Proofs.Reference

namespace Pagewright

/-- every item on the right comes from one on the left -/
theorem exists_left_of_forall₂ {α β : Type} {R : α → β → Prop} {l : List α} {m : List β} (h : List.Forall₂ R l m) {b : β}
    (hb : b ∈ m) : ∃ a ∈ l, R a b := by
  induction h with
  | nil => cases hb
  | @cons x y l m hxy _ ih =>
    rcases List.mem_cons.1 hb with rfl | hb
    · exact ⟨x, List.mem_cons_self .., hxy⟩
    · obtain ⟨a, ha, hab⟩ := ih hb
      exact ⟨a, List.mem_cons_of_mem _ ha, hab⟩

/-- every item on the left leads to one on the right -/
theorem exists_right_of_forall₂ {α β : Type} {R : α → β → Prop} {l : List α} {m : List β} (h : List.Forall₂ R l m) {a : α}
    (ha : a ∈ l) : ∃ b ∈ m, R a b :=
  exists_left_of_forall₂ h.flip ha

namespace Generated

theorem pure_eq_ok {α : Type} {a b : α} : (pure a : Generated α).result = .ok b ↔ a = b := by
  show Except.ok a = Except.ok b ↔ _
  rw [Except.ok.injEq]

theorem bind_eq_ok {α β : Type} {g : Generated α} {f : α → Generated β} {b : β} :
    (g >>= f).result = .ok b ↔ ∃ a, g.result = .ok a ∧ (f a).result = .ok b := by
  show (g.andThen f).result = .ok b ↔ _
  unfold andThen
  cases g.result with
  | error e => simp
  | ok a => simp

theorem resolved_eq_ok {α : Type} {r : Except UnknownReference α} {a : α} : (resolved r).result = .ok a ↔ r = .ok a := by
  unfold resolved
  cases r <;> simp [Except.mapError]

/-- what is made of every item stands in the order of the items -/
theorem each_eq_ok {α β : Type} {f : α → Generated β} {l : List α} {bs : List β} :
    (each f l).result = .ok bs ↔ List.Forall₂ (fun a b => (f a).result = .ok b) l bs := by
  induction l generalizing bs with
  | nil =>
    show Except.ok [] = Except.ok bs ↔ _
    rw [List.forall₂_nil_left_iff, Except.ok.injEq, eq_comm]
  | cons a l ih =>
    show (f a >>= fun b => each f l >>= fun bs => pure (b :: bs)).result = .ok bs ↔ _
    simp only [bind_eq_ok, ih, List.forall₂_cons_left_iff]
    constructor
    · rintro ⟨b, hb, bs', hbs', h⟩
      exact ⟨b, bs', hb, hbs', (pure_eq_ok.1 h).symm⟩
    · rintro ⟨b, bs', hb, hbs', rfl⟩
      exact ⟨b, hb, bs', hbs', pure_eq_ok.2 rfl⟩

/-- what is made of items: nothing else, and something of every item -/
theorem mem_of_each {α β : Type} {f : α → Generated β} {l : List α} {bs : List β} (h : (each f l).result = .ok bs) :
    (∀ b ∈ bs, ∃ a ∈ l, (f a).result = .ok b) ∧ ∀ a ∈ l, ∃ b ∈ bs, (f a).result = .ok b :=
  ⟨fun _ => exists_left_of_forall₂ (each_eq_ok.1 h), fun _ => exists_right_of_forall₂ (each_eq_ok.1 h)⟩

end Generated

/-- the artifacts of an application, one by one -/
theorem compileApp_eq_ok {o : Options} {a : App} {r : Artifacts} (h : (compileApp o a).1 = .ok r) :
    (a.markup o).result = .ok r.markup ∧ (a.script o).result = .ok r.script ∧ r.stylesheet = Stylesheet.text := by
  unfold compileApp at h
  cases hg : (a.generate o).result with
  | error e => simp [hg] at h
  | ok x =>
    obtain ⟨markup, script⟩ := x
    simp only [hg, Except.ok.injEq] at h
    obtain ⟨s, hs, h'⟩ := Generated.bind_eq_ok.1 hg
    obtain ⟨t, ht, h''⟩ := Generated.bind_eq_ok.1 h'
    obtain ⟨rfl, rfl⟩ := Prod.mk.inj (Generated.pure_eq_ok.1 h'')
    rw [← h]
    exact ⟨hs, ht, rfl⟩

/-- an application without dangling references is compiled, if its defaults can be written -/
theorem exists_compileApp_eq_ok {o : Options} {a : App} (hw : a.isWritable = true)
    (h : a.visited.findSome? (a.fault? o) = none) : ∃ r, (compileApp o a).1 = .ok r := by
  cases hr : (compileApp o a).1 with
  | ok r => exact ⟨r, rfl⟩
  | error e =>
    rw [compileApp_eq_error, a.fault?_generate_of_isWritable o hw, h] at hr
    cases hr

theorem exists_compileApp_guestbook (title text : String) :
    ∃ r, (compileApp .standard (App.guestbook title text)).1 = .ok r :=
  exists_compileApp_eq_ok rfl rfl

/-! ## Markup -/

/-- the fragment of a binding with the fields it shows -/
def Fragment.ofComponent (c : Component) (fields : List Field) : String :=
  match c.kind with
  | .form => Fragment.form c.binding fields
  | .list => Fragment.list c.binding fields
  | .view => Fragment.view c.binding

namespace App

theorem bindingHtml_eq_ok {a : App} {o : Options} {c : Component} {s : String} (h : (a.bindingHtml o c).result = .ok s) :
    ∃ fs, a.lookupFields o c = .ok fs ∧ s = Fragment.ofComponent c fs := by
  obtain ⟨fs, hfs, h⟩ := Generated.bind_eq_ok.1 h
  refine ⟨fs, Generated.resolved_eq_ok.1 hfs, ?_⟩
  unfold Fragment.ofComponent
  cases hk : c.kind with
  | form =>
    rw [hk] at h
    obtain ⟨-, -, h⟩ := Generated.bind_eq_ok.1 h
    exact (Generated.pure_eq_ok.1 h).symm
  | list =>
    rw [hk] at h
    exact (Generated.pure_eq_ok.1 h).symm
  | view =>
    rw [hk] at h
    exact (Generated.pure_eq_ok.1 h).symm

/-- a name on a page is shown as what it means, or as a placeholder -/
theorem componentHtml_eq_ok {a : App} {o : Options} {p : Page} {name : String} {r : Option Component × String}
    (h : (a.componentHtml o p name).result = .ok r) :
    r.1 = a.component? name ∧ (r.1 = none ∧ r.2 = Fragment.missing name ∨
      ∃ c fs, r.1 = some c ∧ a.lookupFields o c = .ok fs ∧ r.2 = Fragment.ofComponent c fs) := by
  unfold componentHtml at h
  cases hc : a.component? name with
  | none =>
    rw [hc] at h
    obtain ⟨-, -, h⟩ := Generated.bind_eq_ok.1 h
    rw [← Generated.pure_eq_ok.1 h]
    exact ⟨rfl, Or.inl ⟨rfl, rfl⟩⟩
  | some c =>
    rw [hc] at h
    obtain ⟨s, hs, h⟩ := Generated.bind_eq_ok.1 h
    obtain ⟨fs, hfs, hs⟩ := bindingHtml_eq_ok hs
    rw [← Generated.pure_eq_ok.1 h]
    exact ⟨rfl, Or.inr ⟨c, fs, rfl, hfs, hs⟩⟩

/-- markup is the first page with its components in place, or all forms and lists -/
theorem markup_eq_ok {a : App} {o : Options} {s : String} (h : (a.markup o).result = .ok s) :
    (∃ p ∈ a.pages, ∃ fragments : List (String × String),
        List.Forall₂ (fun name x => ∃ r, (a.componentHtml o p name).result = .ok r ∧ x = (name, r.2)) p.components fragments ∧
        s = Fragment.shell p.title (Fragment.containers p fragments) o.footerText) ∨
      ∃ forms lists : List String,
        List.Forall₂ (fun b t => (a.bindingHtml o ⟨.form, b⟩).result = .ok t) a.forms forms ∧
        List.Forall₂ (fun b t => (a.bindingHtml o ⟨.list, b⟩).result = .ok t) a.lists lists ∧
        s = Fragment.shell o.appTitle (Text.unlines (forms ++ lists)) o.footerText := by
  unfold markup at h
  cases hp : a.landingPage? with
  | some p =>
    rw [hp] at h
    obtain ⟨fragments, hfragments, h⟩ := Generated.bind_eq_ok.1 h
    refine Or.inl ⟨p, List.mem_of_mem_head? hp, fragments, ?_, (Generated.pure_eq_ok.1 h).symm⟩
    refine (Generated.each_eq_ok.1 hfragments).imp fun name x hx => ?_
    obtain ⟨r, hr, hx⟩ := Generated.bind_eq_ok.1 hx
    exact ⟨r, hr, (Generated.pure_eq_ok.1 hx).symm⟩
  | none =>
    rw [hp] at h
    obtain ⟨forms, hforms, h⟩ := Generated.bind_eq_ok.1 h
    obtain ⟨lists, hlists, h⟩ := Generated.bind_eq_ok.1 h
    exact Or.inr ⟨forms, lists, Generated.each_eq_ok.1 hforms, Generated.each_eq_ok.1 hlists,
      (Generated.pure_eq_ok.1 h).symm⟩

end App

/-! ## Script -/

namespace Script

open Text

/-- the lines that put the components of a page in place -/
def Places (a : App) (o : Options) (p : Page) (steps : List Lines) : Prop :=
  List.Forall₂ (fun name ls => ∃ r, (a.componentHtml o p name).result = .ok r ∧ ls = placeComponent name r.1 r.2)
    p.components steps

/-- the texts that a script is made of -/
inductive IsSection (a : App) (o : Options) : String → Prop
  | model {m : Model} (hm : m ∈ a.distinctModels) : IsSection a o (unlines (modelLines m))
  | notice {m : Model} (hm : m ∈ a.distinctModels) : IsSection a o (changeNotice a m)
  | form {b : Binding} (hb : b ∈ a.forms) {fs : List Field} (h : a.lookupFields o ⟨.form, b⟩ = .ok fs) :
    IsSection a o (unlines (formLines b))
  | list {b : Binding} (hb : b ∈ a.lists) {fs : List Field} (h : a.lookupFields o ⟨.list, b⟩ = .ok fs) :
    IsSection a o (unlines (listLines b fs))
  | view {b : Binding} (hb : b ∈ a.views) {fs : List Field} (h : a.lookupFields o ⟨.view, b⟩ = .ok fs) :
    IsSection a o (unlines (viewLines b fs))
  | page {p : Page} (hp : p ∈ a.pages) {steps : List Lines} (h : Places a o p steps) :
    IsSection a o (unlines (pageLines o p steps.flatten))
  | start : IsSection a o (startScript a)

/-- texts that make up a script: no others, and those of every declaration -/
structure Sections (a : App) (o : Options) (ss : List String) : Prop where
  only : ∀ s ∈ ss, IsSection a o s
  models : ∀ m ∈ a.distinctModels, unlines (modelLines m) ∈ ss ∧ changeNotice a m ∈ ss
  forms : ∀ b ∈ a.forms, ∃ fs, a.lookupFields o ⟨.form, b⟩ = .ok fs ∧ unlines (formLines b) ∈ ss
  lists : ∀ b ∈ a.lists, ∃ fs, a.lookupFields o ⟨.list, b⟩ = .ok fs ∧ unlines (listLines b fs) ∈ ss
  views : ∀ b ∈ a.views, ∃ fs, a.lookupFields o ⟨.view, b⟩ = .ok fs ∧ unlines (viewLines b fs) ∈ ss
  pages : ∀ p ∈ a.pages, ∃ steps, Places a o p steps ∧ unlines (pageLines o p steps.flatten) ∈ ss
  start : startScript a ∈ ss

/-- a model has a script exactly if its defaults can be written -/
theorem modelScript_eq_ok {m : Model} {s : String} :
    (modelScript m).result = .ok s ↔ m.fields.all Field.isWritable = true ∧ s = unlines (modelLines m) := by
  have hfault := App.fault?_modelScript m
  constructor
  · intro h
    obtain ⟨-, -, hs⟩ := Generated.bind_eq_ok.1 h
    refine ⟨?_, (Generated.pure_eq_ok.1 hs).symm⟩
    by_contra hw
    rw [if_neg hw, Generated.fault?_eq_some, h] at hfault
    cases hfault
  · rintro ⟨hw, rfl⟩
    rw [if_pos hw] at hfault
    obtain ⟨s, h⟩ := Generated.exists_of_fault?_eq_none hfault
    obtain ⟨-, -, hs⟩ := Generated.bind_eq_ok.1 h
    rw [h, Generated.pure_eq_ok.1 hs]

theorem bindingScript_eq_ok {a : App} {o : Options} {c : Component} {lines : List Field → Lines} {t : String}
    (h : (do let fs ← Generated.resolved (a.lookupFields o c); pure (unlines (lines fs)) : Generated String).result = .ok t) :
    ∃ fs, a.lookupFields o c = .ok fs ∧ t = unlines (lines fs) := by
  obtain ⟨fs, hfs, h⟩ := Generated.bind_eq_ok.1 h
  exact ⟨fs, Generated.resolved_eq_ok.1 hfs, (Generated.pure_eq_ok.1 h).symm⟩

theorem pageScript_eq_ok {a : App} {o : Options} {p : Page} {t : String} (h : (pageScript a o p).result = .ok t) :
    ∃ steps, Places a o p steps ∧ t = unlines (pageLines o p steps.flatten) := by
  obtain ⟨steps, hsteps, h⟩ := Generated.bind_eq_ok.1 h
  refine ⟨steps, (Generated.each_eq_ok.1 hsteps).imp fun name ls hls => ?_, (Generated.pure_eq_ok.1 h).symm⟩
  obtain ⟨r, hr, hls⟩ := Generated.bind_eq_ok.1 hls
  exact ⟨r, hr, (Generated.pure_eq_ok.1 hls).symm⟩

/-- the lines of a binding with the fields it shows -/
def componentLines (c : Component) (fields : List Field) : Lines :=
  match c.kind with
  | .form => formLines c.binding
  | .list => listLines c.binding fields
  | .view => viewLines c.binding fields

/-- a text is the section of a binding, with the fields that were looked up -/
def SectionOf (a : App) (o : Options) (c : Component) (t : String) : Prop :=
  ∃ fs, a.lookupFields o c = .ok fs ∧ t = unlines (componentLines c fs)

/-- a script is made of sections in the order of the declarations: models, forms, lists, views, pages, the start -/
theorem script_eq_parts {a : App} {o : Options} {s : String} (h : (a.script o).result = .ok s) :
    ∃ (parts : BindingKind → List String) (pages : List String),
      (∀ k, List.Forall₂ (fun b t => SectionOf a o ⟨k, b⟩ t) (a.bindings k) (parts k)) ∧
      List.Forall₂ (fun p t => ∃ steps, Places a o p steps ∧ t = unlines (pageLines o p steps.flatten)) a.pages pages ∧
      s = "\n\n".intercalate ((a.distinctModels.flatMap fun m => [unlines (modelLines m), changeNotice a m]) ++
        parts .form ++ parts .list ++ parts .view ++ pages ++ [startScript a]) ++ "\n" := by
  obtain ⟨models, hmodels, h⟩ := Generated.bind_eq_ok.1 h
  obtain ⟨forms, hforms, h⟩ := Generated.bind_eq_ok.1 h
  obtain ⟨lists, hlists, h⟩ := Generated.bind_eq_ok.1 h
  obtain ⟨views, hviews, h⟩ := Generated.bind_eq_ok.1 h
  obtain ⟨pages, hpages, h⟩ := Generated.bind_eq_ok.1 h
  have hmodel : ∀ (m : Model) (ts : List String), (modelSections a m).result = .ok ts →
      [unlines (modelLines m), changeNotice a m] = ts := by
    intro m ts hts
    obtain ⟨t, ht, hts⟩ := Generated.bind_eq_ok.1 hts
    obtain ⟨-, rfl⟩ := modelScript_eq_ok.1 ht
    exact Generated.pure_eq_ok.1 hts
  have hmodels : a.distinctModels.map (fun m => [unlines (modelLines m), changeNotice a m]) = models := by
    have hpairs := (Generated.each_eq_ok.1 hmodels).imp hmodel
    rwa [← List.forall₂_map_left_iff, List.forall₂_eq_eq_eq] at hpairs
  refine ⟨BindingKind.rec forms lists views, pages, fun k => ?_, ?_, ?_⟩
  · cases k with
    | form => exact (Generated.each_eq_ok.1 hforms).imp fun b t ht => bindingScript_eq_ok ht
    | list => exact (Generated.each_eq_ok.1 hlists).imp fun b t ht => bindingScript_eq_ok ht
    | view => exact (Generated.each_eq_ok.1 hviews).imp fun b t ht => bindingScript_eq_ok ht
  · exact (Generated.each_eq_ok.1 hpages).imp fun p t ht => pageScript_eq_ok ht
  · rw [List.flatMap_def, hmodels]
    exact (Generated.pure_eq_ok.1 h).symm

/-- in a compilation the fields of every binding are found -/
theorem exists_lookupFields {a : App} {o : Options} {s : String} (h : (a.script o).result = .ok s) {k : BindingKind}
    {b : Binding} (hb : b ∈ a.bindings k) : ∃ fs, a.lookupFields o ⟨k, b⟩ = .ok fs := by
  obtain ⟨parts, -, hparts, -, -⟩ := script_eq_parts h
  obtain ⟨-, -, fs, hfs, -⟩ := exists_right_of_forall₂ (hparts k) hb
  exact ⟨fs, hfs⟩

/-- a script is made of its sections -/
theorem script_eq_ok {a : App} {o : Options} {s : String} (h : (a.script o).result = .ok s) :
    ∃ ss, Sections a o ss ∧ s = "\n\n".intercalate ss ++ "\n" := by
  obtain ⟨parts, pages, hparts, hpages, hs⟩ := script_eq_parts h
  refine ⟨_, ⟨fun t ht => ?_, fun m hm => ?_, fun b hb => ?_, fun b hb => ?_, fun b hb => ?_, fun p hp => ?_, by simp⟩, hs⟩
  · simp only [List.mem_append, List.mem_flatMap, List.mem_cons, List.not_mem_nil, or_false] at ht
    rcases ht with ((((⟨m, hm, rfl | rfl⟩ | ht) | ht) | ht) | ht) | rfl
    · exact .model hm
    · exact .notice hm
    · obtain ⟨b, hb, fs, hfs, rfl⟩ := exists_left_of_forall₂ (hparts .form) ht
      exact .form hb hfs
    · obtain ⟨b, hb, fs, hfs, rfl⟩ := exists_left_of_forall₂ (hparts .list) ht
      exact .list hb hfs
    · obtain ⟨b, hb, fs, hfs, rfl⟩ := exists_left_of_forall₂ (hparts .view) ht
      exact .view hb hfs
    · obtain ⟨p, hp, steps, hsteps, rfl⟩ := exists_left_of_forall₂ hpages ht
      exact .page hp hsteps
    · exact .start
  · have hmem : ∀ t ∈ [unlines (modelLines m), changeNotice a m],
        t ∈ a.distinctModels.flatMap fun m => [unlines (modelLines m), changeNotice a m] := fun t ht =>
      List.mem_flatMap.2 ⟨m, hm, ht⟩
    simp [hmem]
  · obtain ⟨t, ht, fs, hfs, rfl⟩ := exists_right_of_forall₂ (hparts .form) hb
    exact ⟨fs, hfs, by simpa [componentLines] using Or.inr (Or.inl ht)⟩
  · obtain ⟨t, ht, fs, hfs, rfl⟩ := exists_right_of_forall₂ (hparts .list) hb
    exact ⟨fs, hfs, by simpa [componentLines] using Or.inr (Or.inr (Or.inl ht))⟩
  · obtain ⟨t, ht, fs, hfs, rfl⟩ := exists_right_of_forall₂ (hparts .view) hb
    exact ⟨fs, hfs, by simpa [componentLines] using Or.inr (Or.inr (Or.inr (Or.inl ht)))⟩
  · obtain ⟨t, ht, steps, hsteps, rfl⟩ := exists_right_of_forall₂ hpages hp
    exact ⟨steps, hsteps, by simp [ht]⟩

end Script

end Pagewright
