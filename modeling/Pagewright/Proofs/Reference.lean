/-
Faults of a compilation. It fails exactly when some form, list or view names a model that is not declared or, where field
names are checked, a field that its model does not declare, or when a default has too many digits to be written. If no
default has, the error is about the first such binding in the order in which bindings are visited
(`compileApp_eq_error_iff`).

The order is not written down anywhere in the generators: the first page is rendered before the script, which goes through
all bindings, and without a page the forms and lists are rendered first. Only the fault of a generated text matters here
(`Generated.fault?`), and that of a sequence is the first one.
-/
import Mathlib.Tactic
import Pagewright.Compile

namespace Pagewright

/-! ## Defaults that cannot be written -/

/-- the default is an integer of more than 4300 digits -/
def Field.IsOverlong (f : Field) : Prop := ∃ n, f.default = some (.int n) ∧ 4300 < (Nat.toDigits 10 n.natAbs).length

theorem Field.isWritable_eq_false {f : Field} : f.isWritable = false ↔ f.IsOverlong := by
  unfold isWritable IsOverlong
  cases f.default with
  | none => simp
  | some l =>
    cases l with
    | int n =>
      show decide ((Nat.toDigits 10 n.natAbs).length ≤ Number.digitLimit) = false ↔ _
      rw [decide_eq_false_iff_not, not_le]
      simp only [Option.some.injEq, Literal.int.injEq, exists_eq_left']
      rfl
    | _ => simp [Literal.toValue, Json.Value.isWritable]

theorem Field.isOverlong_of_default {f : Field} {k : Nat} (hf : f.default = some (.int (10 ^ k))) (hk : 4300 ≤ k) :
    f.IsOverlong := by
  refine ⟨10 ^ k, hf, lt_of_le_of_lt hk ?_⟩
  rw [Int.natAbs_pow, ← not_le, Nat.length_toDigits_le_iff (by decide) (by omega), not_lt]
  exact le_refl _

/-- whether every default of a model that a name can lead to can be written -/
def App.isWritable (a : App) : Bool := a.distinctModels.all fun m => m.fields.all Field.isWritable

theorem App.isWritable_eq_false {a : App} : a.isWritable = false ↔ ∃ m ∈ a.distinctModels, ∃ f ∈ m.fields, f.IsOverlong := by
  simp [isWritable, Field.isWritable_eq_false]

/-! ## What names lead to -/

/-- a name that was not seen leads to the same model as before -/
theorem find?_firstOfEachName (n : String) {seen : List String} (hn : n ∉ seen) (ms : List Model) :
    (firstOfEachName seen ms).find? (fun m => m.name = n) = ms.find? fun m => m.name = n := by
  induction ms generalizing seen with
  | nil => rfl
  | cons m ms ih =>
    rw [firstOfEachName]
    by_cases hm : m.name = n
    · have hnew : m.name ∉ seen := hm ▸ hn
      rw [if_neg (by simpa using hnew), List.find?_cons_of_pos (by simpa using hm),
        List.find?_cons_of_pos (by simpa using hm)]
    · rw [List.find?_cons_of_neg (by simpa using hm)]
      split
      · exact ih hn
      · rw [List.find?_cons_of_neg (by simpa using hm)]
        apply ih
        simpa [Ne.symm hm] using hn

namespace App

/-- a model is looked up among those that a name can lead to -/
theorem model?_eq_find? (a : App) (n : String) : a.model? n = a.distinctModels.find? fun m => m.name = n :=
  (find?_firstOfEachName n List.not_mem_nil a.models).symm

end App

/-- what names lead to is declared in the model, or has no default -/
theorem mem_of_resolveNames {o : Options} {c : Component} {m : Model} {ns : List String} {fs : List Field}
    (h : resolveNames o c m ns = .ok fs) {f : Field} (hf : f ∈ fs) : f ∈ m.fields ∨ f.default = none := by
  induction ns generalizing fs with
  | nil =>
    cases h
    cases hf
  | cons n ns ih =>
    simp only [resolveNames] at h
    cases hg : resolveField o c m n with
    | error e => simp [hg, bind, Except.bind] at h
    | ok g =>
      cases hgs : resolveNames o c m ns with
      | error e => simp [hg, hgs, bind, Except.bind] at h
      | ok gs =>
        have hlist : g :: gs = fs := by simpa [hg, hgs, bind, Except.bind, pure, Except.pure] using h
        rw [← hlist, List.mem_cons] at hf
        rcases hf with rfl | hf
        · unfold resolveField at hg
          cases hfield : m.field? n with
          | some k =>
            rw [hfield] at hg
            cases hg
            exact Or.inl (List.mem_of_find?_eq_some hfield)
          | none =>
            simp only [hfield] at hg
            split at hg
            · cases hg
            · cases hg
              exact Or.inr rfl
        · exact ih hgs hf

/-! ## Faults -/

namespace Generated

/-- what generating failed at -/
def fault? {α : Type} (g : Generated α) : Option GenerationFault :=
  match g.result with
  | .ok _ => none
  | .error e => some e

theorem fault?_eq_some {α : Type} {g : Generated α} {e : GenerationFault} : g.fault? = some e ↔ g.result = .error e := by
  unfold fault?
  cases g.result <;> simp

theorem exists_of_fault?_eq_none {α : Type} {g : Generated α} (h : g.fault? = none) : ∃ a, g.result = .ok a := by
  unfold fault? at h
  cases hg : g.result with
  | ok a => exact ⟨a, rfl⟩
  | error e => simp [hg] at h

/-- a sequence fails at its first part, or else at what follows, here the same for every result -/
theorem fault?_bind {α β : Type} (g : Generated α) (f : α → Generated β) (x : Option GenerationFault)
    (h : ∀ a, (f a).fault? = x) : (g >>= f).fault? = g.fault?.or x := by
  show (andThen g f).fault? = _
  unfold andThen
  cases hg : g.result with
  | ok a => simpa [fault?, hg] using h a
  | error r => simp [fault?, hg]

/-- a sequence of which only the first part can fail -/
@[simp] theorem fault?_bind_pure {α β : Type} (g : Generated α) (f : α → β) :
    (g >>= fun a => pure (f a)).fault? = g.fault? := by
  rw [fault?_bind g _ none fun _ => rfl, Option.or_none]

theorem fault?_require (b : Bool) : (require b).fault? = if b then none else some .numeral := by
  cases b <;> rfl

/-- generating from every item fails at the first item that it fails for -/
theorem fault?_each {α β : Type} (f : α → Generated β) (l : List α) :
    (each f l).fault? = l.findSome? fun a => (f a).fault? := by
  induction l with
  | nil => rfl
  | cons a as ih =>
    rw [each, fault?_bind _ _ _ fun b => fault?_bind_pure _ _, ih, List.findSome?_cons]
    cases (f a).fault? <;> rfl

/-- items that can fail at a numeral only fail if one of them does -/
theorem fault?_each_numeral {α β : Type} {f : α → Generated β} {p : α → Bool}
    (h : ∀ a, (f a).fault? = if p a then none else some .numeral) (l : List α) :
    (each f l).fault? = if l.all p then none else some .numeral := by
  rw [fault?_each]
  simp only [h]
  induction l with
  | nil => rfl
  | cons a l ih => cases hp : p a <;> simp [hp, ih]

end Generated

namespace App

/-- the reference of a binding that leads nowhere -/
def fault? (a : App) (o : Options) (c : Component) : Option UnknownReference :=
  match a.lookupFields o c with
  | .ok _ => none
  | .error r => some r

/-- what showing a binding fails at: a reference of it that leads nowhere or, in a form, a default that cannot be written -/
def htmlFault? (a : App) (o : Options) (c : Component) : Option GenerationFault :=
  match a.lookupFields o c with
  | .ok fields => if c.kind = .form ∧ fields.all Fragment.showsWritable = false then some .numeral else none
  | .error r => some (.reference r)

/-- the bindings of a kind, with it -/
def components (a : App) (k : BindingKind) : List Component := (a.bindings k).map (Component.mk k)

/-- what the first page shows, where there is one, without the names that mean nothing -/
def landingComponents (a : App) : List Component :=
  match a.landingPage? with
  | none => []
  | some p => p.components.filterMap a.component?

/-- what the markup shows: the first page or, without one, the forms and lists -/
def shownComponents (a : App) : List Component :=
  match a.landingPage? with
  | none => a.components .form ++ a.components .list
  | some p => p.components.filterMap a.component?

/-- the bindings in the order in which their names are looked up -/
def visited (a : App) : List Component :=
  a.landingComponents ++ a.components .form ++ a.components .list ++ a.components .view

/-! ## What is generated -/

theorem fault?_resolved (a : App) (o : Options) (c : Component) :
    (Generated.resolved (a.lookupFields o c)).fault? = (a.fault? o c).map .reference := by
  unfold Generated.resolved Generated.fault? fault?
  cases a.lookupFields o c <;> rfl

theorem fault?_bindingHtml (a : App) (o : Options) (c : Component) : (a.bindingHtml o c).fault? = a.htmlFault? o c := by
  obtain ⟨k, b⟩ := c
  unfold bindingHtml htmlFault?
  show (Generated.andThen _ _).fault? = _
  unfold Generated.andThen Generated.resolved
  cases a.lookupFields o ⟨k, b⟩ with
  | error r => rfl
  | ok fields =>
    cases k with
    | form =>
      cases hall : fields.all Fragment.showsWritable with
      | true => simp [Except.mapError, Generated.fault?, hall, Generated.require, bind, Generated.andThen, pure, Generated.done]
      | false => simp [Except.mapError, Generated.fault?, hall, Generated.require, bind, Generated.andThen]
    | list => rfl
    | view => rfl

/-- a name on a page fails only where it means a binding that does -/
theorem fault?_componentHtml (a : App) (o : Options) (p : Page) (name : String) :
    (a.componentHtml o p name).fault? = (a.component? name).bind (a.htmlFault? o) := by
  unfold componentHtml
  cases a.component? name with
  | none => rfl
  | some c => exact (Generated.fault?_bind_pure _ _).trans (a.fault?_bindingHtml o c)

/-- the names on a page, one after the other -/
theorem fault?_page {β : Type} (a : App) (o : Options) (p : Page) (f : String → Option Component × String → β) :
    (Generated.each (fun name => do let r ← a.componentHtml o p name; pure (f name r)) p.components).fault? =
      (p.components.filterMap a.component?).findSome? (a.htmlFault? o) := by
  rw [Generated.fault?_each, ← List.head?_filterMap, ← List.head?_filterMap, List.filterMap_filterMap]
  simp [fault?_componentHtml]

/-- the bindings of a kind, one after the other -/
theorem fault?_each_binding {β : Type} (a : App) {k : BindingKind} {f : Binding → Generated β}
    {x : Component → Option GenerationFault} (h : ∀ b, (f b).fault? = x ⟨k, b⟩) :
    (Generated.each f (a.bindings k)).fault? = (a.components k).findSome? x := by
  rw [Generated.fault?_each, components, List.findSome?_map]
  simp [h, Function.comp_def]

/-- **Order of failure in the markup.** It fails at the first binding it shows that cannot be shown. -/
theorem fault?_markup (a : App) (o : Options) : (a.markup o).fault? = a.shownComponents.findSome? (a.htmlFault? o) := by
  unfold markup shownComponents
  cases a.landingPage? with
  | some p => exact (Generated.fault?_bind_pure _ _).trans (a.fault?_page o p fun name r => (name, r.2))
  | none =>
    have hhtml : ∀ k b, (a.bindingHtml o ⟨k, b⟩).fault? = a.htmlFault? o ⟨k, b⟩ := fun k b => a.fault?_bindingHtml o _
    rw [List.findSome?_append, ← a.fault?_each_binding (hhtml .form), ← a.fault?_each_binding (hhtml .list)]
    exact Generated.fault?_bind _ _ _ fun _ => Generated.fault?_bind_pure _ _

theorem fault?_modelScript (m : Model) :
    (Script.modelScript m).fault? = if m.fields.all Field.isWritable then none else some .numeral := by
  refine (Generated.fault?_bind_pure _ _).trans (Generated.fault?_each_numeral (fun f => ?_) m.fields)
  rw [← Generated.fault?_require]
  exact (Generated.fault?_bind _ _ _ fun _ => rfl).trans Option.none_or

/-- the models fail exactly if a default of theirs cannot be written -/
theorem fault?_modelSections (a : App) :
    (Generated.each (Script.modelSections a) a.distinctModels).fault? = if a.isWritable then none else some .numeral :=
  Generated.fault?_each_numeral (fun m => (Generated.fault?_bind_pure _ _).trans (fault?_modelScript m)) a.distinctModels

theorem fault?_pageScript (a : App) (o : Options) (p : Page) :
    (Script.pageScript a o p).fault? = (p.components.filterMap a.component?).findSome? (a.htmlFault? o) :=
  (Generated.fault?_bind_pure _ _).trans (a.fault?_page o p fun name r => Script.placeComponent name r.1 r.2)

/-- **Order of failure in the script.** The models come first, then every binding is looked up, and last come the pages. -/
theorem fault?_script (a : App) (o : Options) :
    (a.script o).fault? = (if a.isWritable then none else some .numeral).or
      (((a.components .form ++ a.components .list ++ a.components .view).findSome? fun c =>
          (a.fault? o c).map .reference).or
        ((a.pages.flatMap fun p => p.components.filterMap a.component?).findSome? (a.htmlFault? o))) := by
  have hsection : ∀ k (f : Binding → Generated String) (lines : Binding → List Field → String),
      (∀ b, f b = do let fs ← Generated.resolved (a.lookupFields o ⟨k, b⟩); pure (lines b fs)) →
        (Generated.each f (a.bindings k)).fault? = (a.components k).findSome? fun c => (a.fault? o c).map .reference := by
    intro k f lines hf
    refine a.fault?_each_binding fun b => ?_
    rw [hf, Generated.fault?_bind_pure, fault?_resolved]
  have hforms := hsection .form (Script.formScript a o) _ fun _ => rfl
  have hlists := hsection .list (Script.listScript a o) _ fun _ => rfl
  have hviews := hsection .view (Script.viewScript a o) _ fun _ => rfl
  have hpages : (Generated.each (Script.pageScript a o) a.pages).fault? =
      (a.pages.flatMap fun p => p.components.filterMap a.component?).findSome? (a.htmlFault? o) := by
    simp only [Generated.fault?_each, fault?_pageScript, ← List.head?_filterMap, List.filterMap_flatMap, List.head?_flatMap]
  calc (a.script o).fault?
      = (Generated.each (Script.modelSections a) a.distinctModels).fault?.or
          ((Generated.each (Script.formScript a o) a.forms).fault?.or
            ((Generated.each (Script.listScript a o) a.lists).fault?.or
              ((Generated.each (Script.viewScript a o) a.views).fault?.or
                (Generated.each (Script.pageScript a o) a.pages).fault?))) := by
        refine Generated.fault?_bind _ _ _ fun _ => Generated.fault?_bind _ _ _ fun _ => ?_
        refine Generated.fault?_bind _ _ _ fun _ => Generated.fault?_bind _ _ _ fun _ => ?_
        exact Generated.fault?_bind_pure _ _
    _ = _ := by
        simp only [fault?_modelSections, hpages, List.findSome?_append, Option.or_assoc, ← hforms, ← hlists, ← hviews]
        rfl

/-! ## Visited bindings -/

theorem mem_components {a : App} {c : Component} : c ∈ a.components c.kind ↔ c.binding ∈ a.bindings c.kind := by
  obtain ⟨k, b⟩ := c
  simp [components]

theorem componentOf?_mem {a : App} {k : BindingKind} {name : String} {c : Component}
    (h : a.componentOf? k name = some c) : c.binding ∈ a.bindings c.kind := by
  obtain ⟨b, hb, rfl⟩ := Option.map_eq_some_iff.1 h
  exact List.mem_of_find?_eq_some hb

/-- what a name on a page means is a declared binding -/
theorem component?_mem {a : App} {name : String} {c : Component} (h : a.component? name = some c) :
    c.binding ∈ a.bindings c.kind := by
  simp only [component?, Option.orElse_eq_orElse, Option.orElse_eq_or, Option.or_eq_some_iff] at h
  rcases h with h | ⟨-, h | ⟨-, h⟩⟩
  all_goals exact componentOf?_mem h

/-- the visited bindings are the declared ones -/
theorem mem_visited {a : App} {c : Component} : c ∈ a.visited ↔ c.binding ∈ a.bindings c.kind := by
  constructor
  · intro h
    simp only [visited, List.append_assoc, List.mem_append, components, List.mem_map] at h
    rcases h with h | ⟨b, hb, rfl⟩ | ⟨b, hb, rfl⟩ | ⟨b, hb, rfl⟩
    · unfold landingComponents at h
      cases hp : a.landingPage? with
      | none => simp [hp] at h
      | some p =>
        simp only [hp] at h
        obtain ⟨name, -, hname⟩ := List.mem_filterMap.1 h
        exact component?_mem hname
    · exact hb
    · exact hb
    · exact hb
  · intro h
    have hc := mem_components.2 h
    obtain ⟨k, b⟩ := c
    cases k with
    | form => simp_all [visited]
    | list => simp_all [visited]
    | view => simp_all [visited]

/-- the fields that a binding shows are those of a model that a name can lead to, or have no default -/
theorem exists_of_mem_lookupFields {a : App} {o : Options} {c : Component} {fs : List Field}
    (h : a.lookupFields o c = .ok fs) {f : Field} (hf : f ∈ fs) :
    (∃ m ∈ a.distinctModels, f ∈ m.fields) ∨ f.default = none := by
  unfold lookupFields lookupModel at h
  cases hm : a.model? c.binding.model with
  | none => simp [hm, bind, Except.bind] at h
  | some m =>
    have hmem : m ∈ a.distinctModels := List.mem_of_find?_eq_some (a.model?_eq_find? _ ▸ hm)
    simp only [hm, bind, Except.bind] at h
    split at h
    · cases h
      exact Or.inl ⟨m, hmem, hf⟩
    · exact (mem_of_resolveNames h hf).imp_left fun hf => ⟨m, hmem, hf⟩

/-- the fields that a binding shows can be written if those of the models can -/
theorem isWritable_of_lookupFields {a : App} {o : Options} {c : Component} {fs : List Field} (hw : a.isWritable = true)
    (h : a.lookupFields o c = .ok fs) : ∀ f ∈ fs, f.isWritable = true := by
  intro f hf
  rcases exists_of_mem_lookupFields h hf with ⟨m, hm, hf⟩ | hnone
  · exact List.all_eq_true.1 (List.all_eq_true.1 hw m hm) f hf
  · simp [Field.isWritable, hnone]

/-- in an application whose defaults can be written, bindings fail at references only -/
theorem htmlFault?_eq {a : App} {o : Options} (hw : a.isWritable = true) :
    a.htmlFault? o = fun c => (a.fault? o c).map .reference := by
  funext c
  unfold htmlFault? fault?
  cases hc : a.lookupFields o c with
  | error r => rfl
  | ok fields =>
    have hshows : fields.all Fragment.showsWritable = true := by
      refine List.all_eq_true.2 fun f hf => ?_
      simp [Fragment.showsWritable, isWritable_of_lookupFields hw hc f hf]
    simp [hshows]

theorem findSome?_reference (a : App) (o : Options) (cs : List Component) :
    (cs.findSome? fun c => (a.fault? o c).map GenerationFault.reference) = (cs.findSome? (a.fault? o)).map .reference := by
  induction cs with
  | nil => rfl
  | cons c cs ih => cases hc : a.fault? o c <;> simp [hc, ih]

/-- a script fails at a numeral exactly if there is one that cannot be written -/
theorem script_eq_numeral {a : App} {o : Options} :
    (a.script o).result = .error .numeral ↔ a.isWritable = false := by
  rw [← Generated.fault?_eq_some, fault?_script]
  cases hw : a.isWritable with
  | false => simp
  | true =>
    rw [htmlFault?_eq hw, findSome?_reference, findSome?_reference, if_pos rfl, Option.none_or, ← Option.map_or,
      Option.map_eq_some_iff]
    simp

theorem isWritable_of_script {a : App} {o : Options} {s : String} (h : (a.script o).result = .ok s) :
    a.isWritable = true := by
  by_contra hw
  rw [script_eq_numeral.2 (Bool.eq_false_of_not_eq_true hw)] at h
  cases h

/-- **Order of failure.** Where the defaults can be written, generating fails at the first visited binding that has a
reference leading nowhere. The pages come last in the script, when every binding has been looked up. -/
theorem fault?_generate_of_isWritable (a : App) (o : Options) (hw : a.isWritable = true) :
    (a.generate o).fault? = (a.visited.findSome? (a.fault? o)).map .reference := by
  have hsplit : (a.generate o).fault? = (a.markup o).fault?.or (a.script o).fault? :=
    Generated.fault?_bind _ _ _ fun _ => Generated.fault?_bind_pure _ _
  have hscript : (a.script o).fault? =
      ((a.components .form ++ a.components .list ++ a.components .view).findSome? (a.fault? o)).map .reference := by
    rw [fault?_script, htmlFault?_eq hw, findSome?_reference, findSome?_reference, hw, if_pos rfl, Option.none_or]
    cases hall : (a.components .form ++ a.components .list ++ a.components .view).findSome? (a.fault? o) with
    | some r => rfl
    | none =>
      have hpages : (a.pages.flatMap fun p => p.components.filterMap a.component?).findSome? (a.fault? o) = none := by
        rw [List.findSome?_eq_none_iff]
        intro c hc
        obtain ⟨p, -, hp⟩ := List.mem_flatMap.1 hc
        obtain ⟨name, -, hname⟩ := List.mem_filterMap.1 hp
        refine List.findSome?_eq_none_iff.1 hall c ?_
        have hmem := mem_components.2 (component?_mem hname)
        obtain ⟨k, b⟩ := c
        cases k <;> simp_all
      rw [hpages]
      rfl
  rw [hsplit, fault?_markup, hscript, htmlFault?_eq hw, findSome?_reference, visited, landingComponents, shownComponents,
    ← Option.map_or]
  congr 1
  cases a.landingPage? with
  | some p => simp only [List.findSome?_append, Option.or_assoc]
  | none =>
    simp only [List.findSome?_append, List.nil_append]
    rw [← Option.or_assoc, Option.or_self]

/-- where a default cannot be written, generating fails -/
theorem fault?_generate_of_not_isWritable (a : App) (o : Options) (hw : a.isWritable = false) :
    ∃ e, (a.generate o).fault? = some e := by
  have hsplit : (a.generate o).fault? = (a.markup o).fault?.or (a.script o).fault? :=
    Generated.fault?_bind _ _ _ fun _ => Generated.fault?_bind_pure _ _
  rw [hsplit, Generated.fault?_eq_some.2 (script_eq_numeral.2 hw)]
  cases (a.markup o).fault? with
  | none => exact ⟨_, rfl⟩
  | some e => exact ⟨e, rfl⟩

/-! ## References of a binding -/

/-- the binding names a model that is not declared or, where names are checked, a field that the first model of that name
does not declare -/
def Dangles (a : App) (o : Options) (c : Component) : Prop :=
  (∀ m ∈ a.models, m.name ≠ c.binding.model) ∨
    (o.validateFieldRefs = true ∧ ∃ m, a.model? c.binding.model = some m ∧
      ∃ n ∈ c.binding.fields, ∀ f ∈ m.fields, f.name ≠ n)

/-- the error of a binding: about its model if that is missing, else about the first of its fields that is -/
inductive Blames (a : App) (o : Options) (c : Component) : UnknownReference → Prop
  | model (hm : ∀ m ∈ a.models, m.name ≠ c.binding.model) :
      Blames a o c ⟨"model", c.binding.model, c.kind.name, c.binding.name, none⟩
  | field {m : Model} {n : String} {pre post : List String} (hv : o.validateFieldRefs = true)
      (hm : a.model? c.binding.model = some m) (hfields : c.binding.fields = pre ++ n :: post)
      (hpre : ∀ x ∈ pre, ∃ f ∈ m.fields, f.name = x) (hn : ∀ f ∈ m.fields, f.name ≠ n) :
      Blames a o c ⟨"field", n, c.kind.name, c.binding.name, some m.name⟩

theorem field?_eq_none {m : Model} {n : String} : m.field? n = none ↔ ∀ f ∈ m.fields, f.name ≠ n := by
  simp [Model.field?, List.find?_eq_none]

theorem field?_ne_none {m : Model} {n : String} : m.field? n ≠ none ↔ ∃ f ∈ m.fields, f.name = n := by
  simp [field?_eq_none]

theorem model?_eq_none {a : App} {name : String} : a.model? name = none ↔ ∀ m ∈ a.models, m.name ≠ name := by
  simp [model?, List.find?_eq_none]

/-- names fail at the first one that the model does not declare -/
theorem resolveNames_eq_error {o : Options} {c : Component} {m : Model} {ns : List String} {r : UnknownReference} :
    resolveNames o c m ns = .error r ↔
      o.validateFieldRefs = true ∧ ∃ n, ns.find? (fun n => m.field? n = none) = some n ∧ r = .ofField c m n := by
  induction ns with
  | nil => simp [resolveNames]
  | cons n ns ih =>
    simp only [resolveNames, resolveField, List.find?_cons]
    cases hn : m.field? n with
    | some f =>
      simp only [reduceCtorEq, decide_false]
      rw [← ih]
      cases resolveNames o c m ns <;> simp [bind, Except.bind, pure, Except.pure]
    | none =>
      cases hv : o.validateFieldRefs with
      | true => simp [bind, Except.bind, eq_comm]
      | false =>
        rw [hv] at ih
        cases hns : resolveNames o c m ns with
        | error e => simpa [hns, bind, Except.bind] using ih
        | ok fs => simp [bind, Except.bind, pure, Except.pure]

theorem fault?_eq_some {a : App} {o : Options} {c : Component} {r : UnknownReference} :
    a.fault? o c = some r ↔ a.lookupFields o c = .error r := by
  unfold fault?
  cases a.lookupFields o c <;> simp

/-- a binding fails at its model, or else at its fields -/
theorem lookupFields_eq_error {a : App} {o : Options} {c : Component} {r : UnknownReference} :
    a.lookupFields o c = .error r ↔
      (a.model? c.binding.model = none ∧ r = .ofModel c) ∨
        ∃ m, a.model? c.binding.model = some m ∧ resolveNames o c m c.binding.fields = .error r := by
  unfold lookupFields lookupModel
  cases hm : a.model? c.binding.model with
  | none => simp [bind, Except.bind, eq_comm]
  | some m =>
    by_cases hfields : c.binding.fields = []
    · simp [bind, Except.bind, pure, Except.pure, hfields, resolveNames]
    · simp [bind, Except.bind, hfields]

/-- the error of a binding is the one it is to be blamed for -/
theorem blames_iff {a : App} {o : Options} {c : Component} {r : UnknownReference} :
    a.Blames o c r ↔ a.fault? o c = some r := by
  simp only [fault?_eq_some, lookupFields_eq_error, resolveNames_eq_error]
  constructor
  · intro h
    cases h with
    | model hm => exact Or.inl ⟨model?_eq_none.2 hm, rfl⟩
    | @field m n pre post hv hm hfields hpre hn =>
      refine Or.inr ⟨m, hm, hv, n, List.find?_eq_some_iff_append.2 ⟨?_, pre, post, hfields, fun x hx => ?_⟩, rfl⟩
      · simpa using field?_eq_none.2 hn
      · simpa using field?_ne_none.2 (hpre x hx)
  · rintro (⟨hm, rfl⟩ | ⟨m, hm, hv, n, hn, rfl⟩)
    · exact .model (model?_eq_none.1 hm)
    · obtain ⟨hnone, pre, post, hfields, hpre⟩ := List.find?_eq_some_iff_append.1 hn
      refine .field hv hm hfields (fun x hx => field?_ne_none.1 ?_) (field?_eq_none.1 (by simpa using hnone))
      simpa using hpre x hx

/-- a binding has an error exactly when a reference of it dangles -/
theorem dangles_iff {a : App} {o : Options} {c : Component} : a.Dangles o c ↔ (a.fault? o c).isSome = true := by
  rw [Option.isSome_iff_exists]
  constructor
  · rintro (hm | ⟨hv, m, hm, n, hn, hf⟩)
    · exact ⟨_, blames_iff.1 (.model hm)⟩
    · have hfound : (c.binding.fields.find? (fun n => m.field? n = none)).isSome = true :=
        List.find?_isSome.2 ⟨n, hn, by simpa using field?_eq_none.2 hf⟩
      obtain ⟨n', hn'⟩ := Option.isSome_iff_exists.1 hfound
      simp only [fault?_eq_some, lookupFields_eq_error, resolveNames_eq_error]
      exact ⟨_, Or.inr ⟨m, hm, hv, n', hn', rfl⟩⟩
  · rintro ⟨r, hr⟩
    cases blames_iff.2 hr with
    | model hm => exact Or.inl hm
    | @field m n pre post hv hm hfields hpre hn => exact Or.inr ⟨hv, m, hm, n, by simp [hfields], hn⟩

/-- the binding is a form with an input for a default that has more than 4300 digits; a boolean field has a box instead -/
def ShowsOverlong (a : App) (o : Options) (c : Component) : Prop :=
  c.kind = .form ∧ ∃ fs, a.lookupFields o c = .ok fs ∧ ∃ f ∈ fs, f.kind ≠ .boolean ∧ f.IsOverlong

theorem htmlFault?_eq_numeral {a : App} {o : Options} {c : Component} :
    a.htmlFault? o c = some .numeral ↔ a.ShowsOverlong o c := by
  unfold htmlFault? ShowsOverlong
  cases a.lookupFields o c with
  | error r => simp
  | ok fs => simp [Fragment.showsWritable, Field.isWritable_eq_false]

theorem htmlFault?_eq_none {a : App} {o : Options} {c : Component} :
    a.htmlFault? o c = none ↔ ¬ a.Dangles o c ∧ ¬ a.ShowsOverlong o c := by
  rw [dangles_iff, ← htmlFault?_eq_numeral]
  unfold htmlFault? fault?
  cases a.lookupFields o c with
  | error r => simp
  | ok fs => simp

/-- markup fails at a numeral exactly if the first binding it cannot show is a form with a default that cannot be written -/
theorem markup_eq_numeral {a : App} {o : Options} :
    (a.markup o).result = .error .numeral ↔ ∃ pre c post, a.shownComponents = pre ++ c :: post ∧
      (∀ d ∈ pre, ¬ a.Dangles o d ∧ ¬ a.ShowsOverlong o d) ∧ a.ShowsOverlong o c := by
  rw [← Generated.fault?_eq_some, fault?_markup, List.findSome?_eq_some_iff]
  simp only [htmlFault?_eq_numeral, htmlFault?_eq_none]
  constructor
  · rintro ⟨pre, c, post, hshown, hc, hpre⟩
    exact ⟨pre, c, post, hshown, hpre, hc⟩
  · rintro ⟨pre, c, post, hshown, hpre, hc⟩
    exact ⟨pre, c, post, hshown, hc, hpre⟩

end App

/-! ## Compilation -/

theorem compileApp_eq_error {o : Options} {a : App} {e : GenerationFault} :
    (compileApp o a).1 = .error e ↔ (a.generate o).fault? = some e := by
  unfold compileApp Generated.fault?
  cases hg : (a.generate o).result <;> simp [hg]

/-- **Faults of a compilation.** It fails exactly when some form, list or view has a reference that dangles, whatever the
pages name, or when a default of a model that a name can lead to has more than 4300 digits. Where none has, the error is the
one of the first such binding among those on the first page, the forms, the lists and the views. -/
theorem compileApp_eq_error_iff (o : Options) (a : App) :
    ((∃ e, (compileApp o a).1 = .error e) ↔
        (∃ k, ∃ b ∈ a.bindings k, a.Dangles o ⟨k, b⟩) ∨ ∃ m ∈ a.distinctModels, ∃ f ∈ m.fields, f.IsOverlong) ∧
      ((∀ m ∈ a.distinctModels, ∀ f ∈ m.fields, ¬ f.IsOverlong) → ∀ e, (compileApp o a).1 = .error e ↔
        ∃ r, e = .reference r ∧
          ∃ pre c post, a.visited = pre ++ c :: post ∧ (∀ d ∈ pre, ¬ a.Dangles o d) ∧ a.Blames o c r) := by
  rw [← App.isWritable_eq_false]
  constructor
  · cases hw : a.isWritable with
    | false => simpa [compileApp_eq_error] using a.fault?_generate_of_not_isWritable o hw
    | true =>
      have hsome : (∃ e, (compileApp o a).1 = .error e) ↔ ∃ c ∈ a.visited, a.Dangles o c := by
        simp only [compileApp_eq_error, a.fault?_generate_of_isWritable o hw, App.dangles_iff, ← Option.isSome_iff_exists,
          Option.isSome_map, List.isSome_findSome?, List.any_eq_true]
      simp only [hsome, Bool.true_eq_false, or_false]
      constructor
      · rintro ⟨c, hc, hd⟩
        exact ⟨c.kind, c.binding, App.mem_visited.1 hc, hd⟩
      · rintro ⟨k, b, hb, hd⟩
        exact ⟨⟨k, b⟩, App.mem_visited.2 hb, hd⟩
  · intro hshort e
    have hw : a.isWritable = true := by
      rw [← Bool.not_eq_false, App.isWritable_eq_false]
      simpa using hshort
    simp only [compileApp_eq_error, a.fault?_generate_of_isWritable o hw, Option.map_eq_some_iff, List.findSome?_eq_some_iff,
      App.dangles_iff, App.blames_iff, Option.not_isSome_iff_eq_none]
    constructor
    · rintro ⟨r, ⟨pre, c, post, hv, hc, hpre⟩, rfl⟩
      exact ⟨r, rfl, pre, c, post, hv, hpre, hc⟩
    · rintro ⟨r, rfl, pre, c, post, hv, hpre, hc⟩
      exact ⟨r, ⟨pre, c, post, hv, hc, hpre⟩, rfl⟩

/-- a view of a declared field and of another -/
def danglingView : Component := ⟨.view, ⟨"V", "A", ["x", "y"]⟩⟩

/-- a form of a model that is not declared, and a view on the first page that names a field that is not -/
def danglingApp : App :=
  ⟨[⟨"A", [⟨"x", "text", false, none⟩]⟩], [⟨"F", "B", []⟩], [danglingView.binding], [], [⟨"P", "", ["none", "V"]⟩]⟩

theorem compileApp_danglingApp :
    (compileApp .standard danglingApp).1 = .error (.reference ⟨"field", "y", "view", "V", some "A"⟩) := by
  have hmodel : danglingApp.model? danglingView.binding.model = some ⟨"A", [⟨"x", "text", false, none⟩]⟩ := rfl
  have hfields : danglingView.binding.fields = ["x"] ++ "y" :: [] := rfl
  have hblames := App.Blames.field (o := .standard) rfl hmodel hfields (by simp) (by simp)
  have hshort : ∀ m ∈ danglingApp.distinctModels, ∀ f ∈ m.fields, ¬ f.IsOverlong := by
    simp [danglingApp, App.distinctModels, firstOfEachName, Field.IsOverlong]
  exact ((compileApp_eq_error_iff .standard danglingApp).2 hshort _).2 ⟨_, rfl, [], _, _, rfl, by simp, hblames⟩

end Pagewright
