/-
Warnings are what was found, once each and in a fixed order. An application has findings that can be read off it without
generating anything: names on a page that no form, list or view has, and fields of a type that is not known. When an
application is compiled, its warnings are the messages of the findings on its first page, of those in its models and of
those on all its pages, each message where it comes first (`warnings_eq_findings`).

The generators give warnings on the way, and the first page is visited by two of them. What is left to show of each is
that its warnings do not depend on anything it makes (`Generated.warnings_bind`, `Generated.warnings_each`).
-/
import Pagewright.Proofs.Artifact.Success

namespace Pagewright

/-! ## Findings -/

inductive Finding where
  /-- a name on a page that nothing has -/
  | absent (component page : String)
  /-- a field of a model whose type is not known -/
  | untyped (model field type : String)

def Finding.message : Finding → String
  | .absent component page => "Component " ++ component ++ " on page " ++ page ++ " not found"
  | .untyped model field type =>
    "Field " ++ model ++ "." ++ field ++ " has unknown type '" ++ type ++ "'; treating it as text"

def knownTypes : List String := ["text", "number", "boolean", "date"]

/-- the fields of a model that are of no known type -/
def Model.findings (m : Model) : List Finding :=
  (m.fields.filter fun f => f.type ∉ knownTypes).map fun f => .untyped m.name f.name f.type

namespace App

/-- the names of all forms, lists and views -/
def componentNames (a : App) : List String := (a.forms ++ a.lists ++ a.views).map Binding.name

/-- the names on a page that no form, list or view has -/
def pageFindings (a : App) (p : Page) : List Finding :=
  (p.components.filter fun name => name ∉ a.componentNames).map fun name => .absent name p.name

/-- the models before which none of the same name is declared -/
def firstModels (a : App) : List Model :=
  (a.models.zipIdx.filter fun x => x.1.name ∉ (a.models.take x.2).map Model.name).map Prod.fst

/-- the findings in the order they are told, with repetitions: the first page, the models, all pages -/
def findings (a : App) : List Finding :=
  (a.pages.take 1).flatMap a.pageFindings ++ a.firstModels.flatMap Model.findings ++ a.pages.flatMap a.pageFindings

end App

/-! ## Warnings on the way -/

namespace Generated

variable {α β : Type}

theorem warnings_bind {g : Generated α} {f : α → Generated β} {a : α} (h : g.result = .ok a) :
    (g >>= f).warnings = g.warnings ++ (f a).warnings := by
  show (g.andThen f).warnings = _
  rw [andThen, h]

/-- what is made of a result has no part in the warnings -/
theorem warnings_bind_pure (g : Generated α) (f : α → β) : (g >>= fun a => pure (f a)).warnings = g.warnings := by
  show (g.andThen fun a => pure (f a)).warnings = _
  unfold andThen
  cases g.result with
  | error e => rfl
  | ok a => exact List.append_nil _

/-- the warnings of the items, one item after the other -/
theorem warnings_each {f : α → Generated β} {l : List α} {bs : List β} (h : (each f l).result = .ok bs) :
    (each f l).warnings = l.flatMap fun a => (f a).warnings := by
  induction l generalizing bs with
  | nil => rfl
  | cons a l ih =>
    obtain ⟨b, hb, h⟩ := bind_eq_ok.1 h
    obtain ⟨bs', hbs', -⟩ := bind_eq_ok.1 h
    rw [each, warnings_bind hb, warnings_bind_pure, ih hbs', List.flatMap_cons]

/-- items that give no warnings -/
theorem warnings_each_nil {f : α → Generated β} (hf : ∀ a, (f a).warnings = []) {l : List α} {bs : List β}
    (h : (each f l).result = .ok bs) : (each f l).warnings = [] := by
  rw [warnings_each h]
  simp [hf]

end Generated

namespace App

variable (a : App) (o : Options)

theorem warnings_bindingHtml (c : Component) : (a.bindingHtml o c).warnings = [] := by
  unfold bindingHtml
  show (Generated.andThen _ _).warnings = _
  unfold Generated.andThen
  cases (Generated.resolved (a.lookupFields o c)).result with
  | error e => rfl
  | ok fields =>
    cases c.kind with
    | form => exact Generated.warnings_bind_pure (Generated.require _) _
    | list => rfl
    | view => rfl

/-- a name on a page means something exactly if a form, list or view has it -/
theorem component?_eq_none_iff (name : String) : a.component? name = none ↔ name ∉ a.componentNames := by
  have hkind : ∀ k, a.componentOf? k name = none ↔ name ∉ (a.bindings k).map Binding.name := by
    intro k
    simp [componentOf?, binding?, List.find?_eq_none]
  simp only [component?, Option.orElse_eq_orElse, Option.orElse_eq_or, Option.or_eq_none_iff, hkind, bindings,
    componentNames, List.map_append, List.mem_append, not_or, and_assoc]

theorem warnings_componentHtml (p : Page) (name : String) :
    (a.componentHtml o p name).warnings =
      if name ∉ a.componentNames then [(Finding.absent name p.name).message] else [] := by
  have hnone := a.component?_eq_none_iff name
  unfold componentHtml
  cases hc : a.component? name with
  | none =>
    rw [if_pos (hnone.1 hc)]
    rfl
  | some c =>
    have hname : ¬name ∉ a.componentNames := fun h => by simp [hnone.2 h] at hc
    rw [if_neg hname]
    exact (Generated.warnings_bind_pure _ _).trans (a.warnings_bindingHtml o c)

/-- a page is told about in the order of its names, whatever is made of them -/
theorem warnings_components {β : Type} {p : Page} {f : String → Option Component × String → β} {bs : List β}
    (h : (Generated.each (fun name => do let r ← a.componentHtml o p name; pure (f name r)) p.components).result = .ok bs) :
    (Generated.each (fun name => do let r ← a.componentHtml o p name; pure (f name r)) p.components).warnings =
      (a.pageFindings p).map Finding.message := by
  rw [Generated.warnings_each h, pageFindings, List.map_map]
  generalize p.components = names
  induction names with
  | nil => rfl
  | cons name names ih =>
    rw [List.flatMap_cons, ih, Generated.warnings_bind_pure, warnings_componentHtml]
    by_cases hname : name ∈ a.componentNames <;> simp [hname]

variable {a o}

theorem warnings_markup {s : String} (h : (a.markup o).result = .ok s) :
    (a.markup o).warnings = ((a.pages.take 1).flatMap a.pageFindings).map Finding.message := by
  unfold markup at h ⊢
  have hfirst : a.landingPage? = a.pages.head? := rfl
  cases hpages : a.pages with
  | nil =>
    rw [hpages, List.head?_nil] at hfirst
    rw [hfirst] at h ⊢
    obtain ⟨forms, hforms, h⟩ := Generated.bind_eq_ok.1 h
    obtain ⟨lists, hlists, -⟩ := Generated.bind_eq_ok.1 h
    dsimp only
    rw [fallbackHtml, Generated.warnings_bind hforms, Generated.warnings_bind_pure,
      Generated.warnings_each_nil (fun b => a.warnings_bindingHtml o _) hforms,
      Generated.warnings_each_nil (fun b => a.warnings_bindingHtml o _) hlists]
    rfl
  | cons p ps =>
    rw [hpages, List.head?_cons] at hfirst
    rw [hfirst] at h ⊢
    obtain ⟨fragments, hfragments, -⟩ := Generated.bind_eq_ok.1 h
    have hpage := a.warnings_components o (f := fun name r => (name, r.2)) hfragments
    simpa [pageHtml, Generated.warnings_bind_pure] using hpage

end App

/-! ## Models that are told about -/

theorem isKnown_iff (f : Field) : f.isKnown = true ↔ f.type ∈ knownTypes := by
  have hnames : knownTypes = [FieldKind.text, .number, .boolean, .date].map FieldKind.name := rfl
  rw [Field.isKnown, FieldKind.ofName?, List.find?_isSome, hnames, List.mem_map]
  simp only [decide_eq_true_eq]

theorem warnings_checkField (m : Model) (f : Field) : (Script.checkField m f).warnings =
    if f.type ∉ knownTypes then [(Finding.untyped m.name f.name f.type).message] else [] := by
  have hwarn : (Generated.warnUnless f.isKnown (Script.unknownType m f)).result = .ok () := rfl
  have hsilent : (Generated.require f.isWritable).warnings = [] := rfl
  rw [Script.checkField, Generated.warnings_bind hwarn, hsilent, List.append_nil]
  simp only [← isKnown_iff]
  cases f.isKnown <;> rfl

theorem warnings_modelScript {m : Model} {s : String} (h : (Script.modelScript m).result = .ok s) :
    (Script.modelScript m).warnings = m.findings.map Finding.message := by
  obtain ⟨checks, hchecks, -⟩ := Generated.bind_eq_ok.1 h
  rw [Script.modelScript, Generated.warnings_bind_pure, Generated.warnings_each hchecks, Model.findings, List.map_map]
  simp only [warnings_checkField]
  generalize m.fields = fields
  induction fields with
  | nil => rfl
  | cons f fields ih =>
    rw [List.flatMap_cons, ih]
    by_cases hf : f.type ∈ knownTypes <;> simp [hf]

/-- going through the models with the names seen, it is the first of each name that is kept -/
theorem firstOfEachName_eq {seen : List String} (before ms : List Model)
    (hseen : ∀ n, n ∈ seen ↔ n ∈ before.map Model.name) :
    firstOfEachName seen ms = ((ms.zipIdx before.length).filter fun x =>
      x.1.name ∉ ((before ++ ms).take x.2).map Model.name).map Prod.fst := by
  induction ms generalizing seen before with
  | nil => rfl
  | cons m ms ih =>
    have hnext : ∀ n, n ∈ m.name :: seen ↔ n ∈ (before ++ [m]).map Model.name := by
      intro n
      simp [hseen, or_comm]
    have hmore := ih (before ++ [m]) hnext
    rw [List.append_assoc, List.singleton_append, List.length_append, List.length_singleton] at hmore
    have hm : m.name ∈ seen ↔ m.name ∈ ((before ++ m :: ms).take before.length).map Model.name := by
      rw [hseen, List.take_left]
    rw [firstOfEachName, List.zipIdx_cons, List.filter_cons]
    by_cases hold : m.name ∈ seen
    · -- a name that was seen before: nothing is new to the models after it either
      have hsame : ∀ n, n ∈ seen ↔ n ∈ (before ++ [m]).map Model.name := by
        intro n
        rw [← hnext, List.mem_cons, iff_or_self]
        rintro rfl
        exact hold
      have hkept := ih (before ++ [m]) hsame
      rw [List.append_assoc, List.singleton_append, List.length_append, List.length_singleton] at hkept
      rw [if_pos (by simpa using hold), if_neg (by simpa [hm] using hold), hkept]
    · rw [if_neg (by simpa using hold), if_pos (by simpa [hm] using hold), List.map_cons, hmore]

theorem App.distinctModels_eq_firstModels (a : App) : a.distinctModels = a.firstModels :=
  firstOfEachName_eq [] a.models (by simp)

/-! ## The script -/

namespace App

variable {a : App} {o : Options}

theorem warnings_script {s : String} (h : (a.script o).result = .ok s) :
    (a.script o).warnings =
      (a.firstModels.flatMap Model.findings ++ a.pages.flatMap a.pageFindings).map Finding.message := by
  obtain ⟨models, hmodels, h⟩ := Generated.bind_eq_ok.1 h
  obtain ⟨forms, hforms, h⟩ := Generated.bind_eq_ok.1 h
  obtain ⟨lists, hlists, h⟩ := Generated.bind_eq_ok.1 h
  obtain ⟨views, hviews, h⟩ := Generated.bind_eq_ok.1 h
  obtain ⟨pages, hpages, -⟩ := Generated.bind_eq_ok.1 h
  have hsilent : ∀ (c : Component) (lines : List Field → String),
      (do let fields ← Generated.resolved (a.lookupFields o c); pure (lines fields) : Generated String).warnings = [] :=
    fun c lines => Generated.warnings_bind_pure _ _
  have hmodel : ∀ m ∈ a.distinctModels, (Script.modelSections a m).warnings = m.findings.map Finding.message := by
    intro m hm
    obtain ⟨t, -, ht⟩ := exists_right_of_forall₂ (Generated.each_eq_ok.1 hmodels) hm
    obtain ⟨s, hs, -⟩ := Generated.bind_eq_ok.1 ht
    exact (Generated.warnings_bind_pure _ _).trans (warnings_modelScript hs)
  have hmodels' : (Generated.each (Script.modelSections a) a.distinctModels).warnings =
      (a.firstModels.flatMap Model.findings).map Finding.message := by
    rw [Generated.warnings_each hmodels, ← distinctModels_eq_firstModels, List.map_flatMap]
    exact List.flatMap_congr hmodel
  have hpage : ∀ p ∈ a.pages, (Script.pageScript a o p).warnings = (a.pageFindings p).map Finding.message := by
    intro p hp
    obtain ⟨t, -, ht⟩ := exists_right_of_forall₂ (Generated.each_eq_ok.1 hpages) hp
    obtain ⟨steps, hsteps, -⟩ := Generated.bind_eq_ok.1 ht
    exact (Generated.warnings_bind_pure _ _).trans (a.warnings_components o hsteps)
  have hpages' : (Generated.each (Script.pageScript a o) a.pages).warnings =
      (a.pages.flatMap a.pageFindings).map Finding.message := by
    rw [Generated.warnings_each hpages, List.map_flatMap]
    exact List.flatMap_congr hpage
  have hform : (Generated.each (Script.formScript a o) a.forms).warnings = [] :=
    Generated.warnings_each_nil (fun b => hsilent ⟨.form, b⟩ _) hforms
  have hlist : (Generated.each (Script.listScript a o) a.lists).warnings = [] :=
    Generated.warnings_each_nil (fun b => hsilent ⟨.list, b⟩ _) hlists
  have hview : (Generated.each (Script.viewScript a o) a.views).warnings = [] :=
    Generated.warnings_each_nil (fun b => hsilent ⟨.view, b⟩ _) hviews
  unfold script
  rw [Generated.warnings_bind hmodels, Generated.warnings_bind hforms, Generated.warnings_bind hlists,
    Generated.warnings_bind hviews, Generated.warnings_bind_pure, hpages', hmodels', hform, hlist, hview]
  simp only [List.nil_append, List.map_append]

end App

/-! ## Once each -/

theorem firstOccurrences_append_singleton (texts : List String) (t : String) : firstOccurrences (texts ++ [t]) =
    if t ∈ firstOccurrences texts then firstOccurrences texts else firstOccurrences texts ++ [t] := by
  simp [firstOccurrences, List.foldl_append]

/-- each text where it came first -/
theorem firstOccurrences_eq_eraseDups (texts : List String) : firstOccurrences texts = texts.eraseDups := by
  -- from the end: the last text is kept exactly if it is not among those before it
  induction texts using List.reverseRecOn with
  | nil => rfl
  | append_singleton texts t ih =>
    rw [firstOccurrences_append_singleton, ih, List.eraseDups_append]
    by_cases ht : t ∈ texts
    · simp [ht, List.removeAll]
    · simp [ht, List.removeAll, List.eraseDups_cons]

/-- **Warnings are the findings, once each.** When an application is compiled, its warnings are the messages of what its
first page, its models and all its pages have to tell, in this order, each message where it comes first. -/
theorem warnings_eq_findings {o : Options} {a : App} {r : Artifacts} (h : (compileApp o a).1 = .ok r) :
    r.warnings = (a.findings.map Finding.message).eraseDups := by
  obtain ⟨hmarkup, hscript, -⟩ := compileApp_eq_ok h
  have hwarnings : (a.generate o).warnings = a.findings.map Finding.message := by
    rw [App.generate, Generated.warnings_bind hmarkup, Generated.warnings_bind_pure, App.warnings_markup hmarkup,
      App.warnings_script hscript, App.findings, ← List.map_append, List.append_assoc]
  unfold compileApp at h
  cases hg : (a.generate o).result with
  | error e => simp [hg] at h
  | ok x =>
    simp only [hg, Except.ok.injEq] at h
    rw [← h, ← hwarnings]
    exact firstOccurrences_eq_eraseDups _

/-- two pages and two models of one name each, a component that is missing twice, and a field of an unknown type in the
second model, which is never used -/
def App.doubled : App where
  models := [⟨"M", [⟨"x", "txt", false, none⟩, ⟨"y", "date", false, none⟩]⟩, ⟨"M", [⟨"z", "blob", false, none⟩]⟩]
  forms := []
  views := [⟨"V", "M", []⟩]
  lists := []
  pages := [⟨"P", "first", ["X", "V", "X"]⟩, ⟨"P", "second", ["Y", "X"]⟩]

theorem warnings_doubled : ∃ r, (compileApp .standard App.doubled).1 = .ok r ∧ r.warnings =
    ["Component X on page P not found", "Field M.x has unknown type 'txt'; treating it as text",
      "Component Y on page P not found"] := by
  obtain ⟨r, hr⟩ := exists_compileApp_eq_ok (o := .standard) (a := App.doubled) rfl rfl
  refine ⟨r, hr, (warnings_eq_findings hr).trans ?_⟩
  decide

end Pagewright
