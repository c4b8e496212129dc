/-
The ids of markup. An id is the name of a form, list or view, or such a name and the name of a part after a dash: the form
element, the table body, the container on a page, and the inputs of a form, which are named by the fields. A name has no dash
in it, so every id tells which component it belongs to, and ids of different components differ. Those of one component differ
unless a field has the name of another part. No field is called `form`, which is a reserved word, but one may be called
`container`. For a source whose names are told apart, ids are distinct but for that (`nodup_ids_iff`).
-/
import Pagewright.Proofs.Artifact.Query
import Pagewright.Proofs.Artifact.Warnings
import Pagewright.Proofs.Compile.Expressible

namespace Pagewright

open Text Html

/-! ## Ids in tags -/

namespace Html

/-- the ids in markup -/
def ids (s : String) : List String := (tags s).flatMap (attributeValues "id")

def labelTargets (s : String) : List String :=
  ((tags s).filter fun tag => tagName tag = "label").flatMap (attributeValues "for")

def inputIds (s : String) : List String :=
  ((tags s).filter fun tag => tagName tag = "input").flatMap (attributeValues "id")

theorem attributeValues_closing (n : String) {t : String} (ht : '"' ∉ t.toList) :
    attributeValues n ('/' :: t.toList) = [] := by
  have hquote : '"' ∉ '/' :: t.toList := by simp [ht]
  rw [attributeValues, List.splitOn_eq_singleton hquote]
  rfl

end Html

namespace Query

def inputId (form : String) (f : Field) : List String := [form ++ "-" ++ f.name]

/-- the question for ids -/
def ids : Query String where
  read := attributeValues "id"
  ofId i := [i]
  ofField := inputId

theorem attributeValues_other {t : String} (ht : t ∈ elements) {as : List Attribute}
    (has : ∀ a ∈ as, Neat a ∧ a.name ≠ "id") : attributeValues "id" (inside t as) = [] := by
  rw [attributeValues_inside (by decide) (Lawful.neat_tag ht).2 fun a ha => (has a ha).1, List.filterMap_eq_nil_iff]
  exact fun a ha => if_neg (has a ha).2

theorem attributeValues_for (form : String) (hform : Name.isAccepted form.toList = true) {f : Field}
    (hf : Name.isAccepted f.name.toList = true) (n : String) (hn : ' ' ∉ n.toList) :
    attributeValues n (inside "label" [attr "for" (form ++ "-" ++ f.name)]) =
      if "for" = n then [form ++ "-" ++ f.name] else [] := by
  have hneat : ∀ a ∈ [attr "for" (form ++ "-" ++ f.name)], Neat a :=
    List.forall_mem_singleton.2 (neat_attr (by decide) (plain_inputId hform hf))
  rw [attributeValues_inside hn (by decide) hneat]
  by_cases h : "for" = n
  · simp [attr, h]
  · simp [attr, h]

theorem lawful_ids : ids.Lawful where
  closing := fun ht => attributeValues_closing _ (Lawful.neat_tag ht).2
  other := fun ht _ has => attributeValues_other ht.1 has
  withId := by
    intro t ht i hi as has
    have hneat : ∀ a ∈ attr "id" i :: as, Neat a :=
      List.forall_mem_cons.2 ⟨neat_attr (by decide) hi, fun a ha => (has a ha).1⟩
    have hrest : as.filterMap (fun a => if a.name = "id" then a.value else none) = [] :=
      List.filterMap_eq_nil_iff.2 fun a ha => if_neg (has a ha).2
    show attributeValues "id" _ = [i]
    rw [attributeValues_inside (by decide) (Lawful.neat_tag ht.1).2 hneat, List.filterMap_cons]
    simp [attr, hrest]
  field := by
    intro form hform f hf
    show attributeValues "id" _ ++ attributeValues "id" _ = [form ++ "-" ++ f.name]
    rw [attributeValues_for form hform hf "id" (by decide), (attributeValues_input hform hf).1]
    rfl

end Query

/-! ## Ids of components -/

def idBlock (n : String) (parts : List String) : List String := n :: parts.map (n ++ "-" ++ ·)

/-- the component that an id belongs to -/
def idOwner (i : String) : String := String.ofList (i.toList.takeWhile (· ≠ '-'))

/-- the parts of a component that have ids of their own -/
def Component.parts (c : Component) (fields : List Field) : List String :=
  match c.kind with
  | .form => "form" :: fields.map Field.name
  | _ => ["body"]

theorem idOwner_of_mem_idBlock {n : String} (hn : '-' ∉ n.toList) {parts : List String} {i : String}
    (hi : i ∈ idBlock n parts) : idOwner i = n := by
  have hname : ∀ c ∈ n.toList, decide (c ≠ '-') = true := by
    intro c hc
    simpa using fun he : c = '-' => hn (he ▸ hc)
  have htake : ∀ r : List Char, (n.toList ++ '-' :: r).takeWhile (· ≠ '-') = n.toList := by
    intro r
    rw [List.takeWhile_append_of_pos hname, List.takeWhile_cons_of_neg (by decide), List.append_nil]
  rcases List.mem_cons.1 hi with rfl | hi
  · rw [idOwner, List.takeWhile_eq_self_iff.2 hname, String.ofList_toList]
  · obtain ⟨part, -, rfl⟩ := List.mem_map.1 hi
    have hsplit : (n ++ "-" ++ part).toList = n.toList ++ '-' :: part.toList := by simp
    rw [idOwner, hsplit, htake, String.ofList_toList]

theorem nodup_idBlock (n : String) {parts : List String} : (idBlock n parts).Nodup ↔ parts.Nodup := by
  have hshorter : n ∉ parts.map (n ++ "-" ++ ·) := by
    intro h
    obtain ⟨part, -, hpart⟩ := List.mem_map.1 h
    have hlength := congrArg (fun s : String => s.toList.length) hpart
    simp at hlength
  have hinjective : Function.Injective (n ++ "-" ++ · : String → String) := by
    intro x y h
    simpa using h
  rw [idBlock, List.nodup_cons, List.nodup_map_iff hinjective]
  exact and_iff_right hshorter

/-- when the items of a list own different ids, all that matters is whether the ids of each item differ -/
theorem nodup_flatMap_iff_of_idOwner {β : Type} {l : List β} {f : β → List String} {key : β → String}
    (hkeys : (l.map key).Nodup) (howner : ∀ b ∈ l, ∀ i ∈ f b, idOwner i = key b) :
    (l.flatMap f).Nodup ↔ ∀ b ∈ l, (f b).Nodup := by
  have hdisjoint : l.Pairwise (Function.onFun List.Disjoint f) := by
    refine (List.pairwise_map.1 hkeys).imp_of_mem fun {b c} hb hc hne => List.disjoint_left.2 fun i hi hi' => hne ?_
    exact (howner b hb i hi).symm.trans (howner c hc i hi')
  rw [List.nodup_flatMap]
  exact and_iff_left hdisjoint

/-! ## Names that are told apart -/

/-- forms, lists and views have different names, and no model, no subset and no page repeats an entry -/
structure App.WellNamed (a : App) : Prop where
  components : a.componentNames.Nodup
  fields : ∀ m ∈ a.models, (m.fields.map Field.name).Nodup
  subsets : ∀ k, ∀ b ∈ a.bindings k, b.fields.Nodup
  pages : ∀ p ∈ a.pages, p.components.Nodup

theorem Name.isAccepted_of_isFree {n : String} (h : Name.IsFree n) : Name.isAccepted n.toList = true := by
  simp [Name.isAccepted, h.1]

theorem Name.not_mem_dash {n : String} (h : Name.IsFree n) : '-' ∉ n.toList :=
  not_mem_name (Name.isAccepted_of_isFree h) (by decide)

namespace App

variable {a : App} {o : Options}

/-- a component shows a field once -/
theorem WellNamed.nodup_fields (hw : a.WellNamed) {c : Component} (hc : c.binding ∈ a.bindings c.kind) {fs : List Field}
    (h : a.lookupFields o c = .ok fs) : (fs.map Field.name).Nodup := by
  unfold lookupFields lookupModel at h
  cases hm : a.model? c.binding.model with
  | none => simp [hm, bind, Except.bind] at h
  | some m =>
    simp only [hm, bind, Except.bind] at h
    split at h
    · cases h
      exact hw.fields m (List.mem_of_find?_eq_some hm)
    · rw [names_of_resolveNames h]
      exact hw.subsets _ _ hc

/-- the name of a form on a page means the form -/
theorem WellNamed.component?_form (hw : a.WellNamed) {b : Binding} (hb : b ∈ a.forms) :
    a.component? b.name = some ⟨.form, b⟩ := by
  have hnodup : (a.forms.map Binding.name).Nodup := by
    have h := hw.components
    rw [componentNames, List.map_append, List.map_append, List.append_assoc] at h
    exact (List.nodup_append.1 h).1
  have hfound : a.forms.find? (fun c => c.name = b.name) = some b := by
    have hsome : (a.forms.find? fun c => c.name = b.name).isSome = true := List.find?_isSome.2 ⟨b, hb, by simp⟩
    obtain ⟨c, hc⟩ := Option.isSome_iff_exists.1 hsome
    have hname : c.name = b.name := by simpa using List.find?_some hc
    rw [hc, List.inj_on_of_nodup_map hnodup (List.mem_of_find?_eq_some hc) hb hname]
  simp [component?, componentOf?, binding?, bindings, hfound]

variable (hfree : ∀ n ∈ a.names, Name.IsFree n)

include hfree

/-- no field has the name of the form element -/
theorem nodup_parts (hw : a.WellNamed) {c : Component} (hc : c.binding ∈ a.bindings c.kind) {fs : List Field}
    (h : a.lookupFields o c = .ok fs) : (c.parts fs).Nodup := by
  have hnames := hw.nodup_fields hc h
  obtain ⟨k, b⟩ := c
  cases k with
  | form =>
    refine List.nodup_cons.2 ⟨fun hmem => ?_, hnames⟩
    obtain ⟨f, hf, hform⟩ := List.mem_map.1 hmem
    have hreserved := (hfree _ (name_mem_of_lookupFields hc h hf)).2
    rw [hform] at hreserved
    exact hreserved (by decide)
  | list => exact List.nodup_singleton _
  | view => exact List.nodup_singleton _

/-- a component and its container: the parts differ unless a form shows a field that is called like the container -/
theorem nodup_parts_container (hw : a.WellNamed) {c : Component} (hc : c.binding ∈ a.bindings c.kind) {fs : List Field}
    (h : a.lookupFields o c = .ok fs) :
    ("container" :: c.parts fs).Nodup ↔ ¬ (c.kind = .form ∧ "container" ∈ fs.map Field.name) := by
  have hparts := nodup_parts hfree hw hc h
  rw [List.nodup_cons, and_iff_left hparts, not_iff_not]
  obtain ⟨k, b⟩ := c
  cases k with
  | form => simp [Component.parts]
  | list => simp [Component.parts]
  | view => simp [Component.parts]

end App

/-! ## Ids of markup -/

namespace Query

theorem ids_ofComponent (c : Component) (fs : List Field) : ids.ofComponent c fs = idBlock c.binding.name (c.parts fs) := by
  obtain ⟨k, b⟩ := c
  have hform : b.name ++ "-form" = b.name ++ "-" ++ "form" := by rw [String.append_assoc]; rfl
  have hbody : b.name ++ "-body" = b.name ++ "-" ++ "body" := by rw [String.append_assoc]; rfl
  cases k with
  | form =>
    have hinputs : fs.flatMap (inputId b.name) = (fs.map Field.name).map (b.name ++ "-" ++ ·) := by
      rw [List.map_map, List.map_eq_flatMap]
      rfl
    simp only [ofComponent, Component.parts, idBlock, ids, hform, hinputs, List.map_cons, List.singleton_append]
  | list => simp only [ofComponent, Component.parts, idBlock, ids, hbody, List.map_cons, List.map_nil, List.singleton_append]
  | view => simp only [ofComponent, Component.parts, idBlock, ids, hbody, List.map_cons, List.map_nil, List.singleton_append]

theorem append_container (n : String) : n ++ "-container" = n ++ "-" ++ "container" := by
  rw [String.append_assoc]
  rfl

variable {a : App} {o : Options}

/-- on a page there is one more part, the container -/
theorem ids_ofName {n : String} {c : Component} (hc : a.component? n = some c) {fs : List Field}
    (hfs : a.lookupFields o c = .ok fs) : (ids.ofName a o n).Perm (idBlock n ("container" :: c.parts fs)) := by
  have hname : ids.ofName a o n = (n ++ "-" ++ "container") :: idBlock n (c.parts fs) := by
    rw [ofName, hc, Option.elim_some, ofBinding_eq _ hfs, ids_ofComponent, App.component?_name hc, append_container]
    rfl
  rw [hname]
  exact List.Perm.swap ..

theorem ids_ofName_missing {n : String} (hc : a.component? n = none) : ids.ofName a o n = [n ++ "-" ++ "container"] := by
  rw [ofName, hc, Option.elim_none, append_container]
  rfl

variable (hfree : ∀ n ∈ a.names, Name.IsFree n) (hw : a.WellNamed)
  (hlookup : ∀ k, ∀ b ∈ a.bindings k, ∃ fs, a.lookupFields o ⟨k, b⟩ = .ok fs)

include hfree hw hlookup

/-- the ids of a page are distinct if no form shows a field that is called like its container -/
theorem nodup_ids_page {p : Page} (hp : p ∈ a.pages) : (p.components.flatMap (ids.ofName a o)).Nodup ↔
    ¬ ∃ b fs, b ∈ a.forms ∧ b.name ∈ p.components ∧ a.lookupFields o ⟨.form, b⟩ = .ok fs ∧
      "container" ∈ fs.map Field.name := by
  have hdash : ∀ n ∈ p.components, '-' ∉ n.toList := fun n hn =>
    Name.not_mem_dash (hfree n (App.mem_names_of_page hp (List.mem_cons_of_mem _ hn)))
  have howner : ∀ n ∈ p.components, ∀ i ∈ ids.ofName a o n, idOwner i = n := by
    intro n hn i hi
    cases hc : a.component? n with
    | none =>
      rw [ids_ofName_missing hc] at hi
      exact idOwner_of_mem_idBlock (hdash n hn) (List.mem_cons_of_mem n hi : i ∈ idBlock n ["container"])
    | some c =>
      obtain ⟨fs, hfs⟩ := hlookup _ _ (App.component?_mem hc)
      exact idOwner_of_mem_idBlock (hdash n hn) ((ids_ofName hc hfs).mem_iff.1 hi)
  have hkeys : (p.components.map id).Nodup := by
    rw [List.map_id]
    exact hw.pages p hp
  rw [nodup_flatMap_iff_of_idOwner hkeys howner]
  constructor
  · rintro hall ⟨b, fs, hb, hname, hfs, hclash⟩
    have hc := hw.component?_form hb
    have hnodup := (nodup_idBlock _).1 ((ids_ofName hc hfs).nodup_iff.1 (hall _ hname))
    exact (App.nodup_parts_container hfree hw (App.component?_mem hc) hfs).1 hnodup ⟨rfl, hclash⟩
  · intro hclash n hn
    cases hc : a.component? n with
    | none =>
      rw [ids_ofName_missing hc]
      exact List.nodup_singleton _
    | some c =>
      have hmem := App.component?_mem hc
      obtain ⟨fs, hfs⟩ := hlookup _ _ hmem
      rw [(ids_ofName hc hfs).nodup_iff, nodup_idBlock, App.nodup_parts_container hfree hw hmem hfs]
      rintro ⟨hkind, hcontainer⟩
      obtain ⟨k, b⟩ := c
      obtain rfl : k = .form := hkind
      refine hclash ⟨b, fs, hmem, ?_, hfs, hcontainer⟩
      have hname : b.name = n := App.component?_name hc
      rwa [hname]

/-- without a page there are no containers -/
theorem nodup_ids_bindings : ((a.components .form ++ a.components .list).flatMap (ids.ofBinding a o)).Nodup := by
  have hmem : ∀ c ∈ a.components .form ++ a.components .list, c.binding ∈ a.bindings c.kind := by
    intro c hc
    rcases List.mem_append.1 hc with hc | hc
    · obtain ⟨b, hb, rfl⟩ := List.mem_map.1 hc
      exact hb
    · obtain ⟨b, hb, rfl⟩ := List.mem_map.1 hc
      exact hb
  have hblock : ∀ c ∈ a.components .form ++ a.components .list, ∃ fs, a.lookupFields o c = .ok fs ∧
      ids.ofBinding a o c = idBlock c.binding.name (c.parts fs) := by
    intro c hc
    obtain ⟨fs, hfs⟩ := hlookup _ _ (hmem c hc)
    exact ⟨fs, hfs, by rw [ofBinding_eq _ hfs, ids_ofComponent]⟩
  have hkeys : ((a.components .form ++ a.components .list).map fun c => c.binding.name).Nodup := by
    have hnodup := hw.components
    rw [App.componentNames, List.map_append] at hnodup
    have hall := (List.nodup_append.1 hnodup).1
    simpa [App.components, App.bindings, Function.comp_def] using hall
  rw [nodup_flatMap_iff_of_idOwner hkeys]
  · intro c hc
    obtain ⟨fs, hfs, hids⟩ := hblock c hc
    rw [hids, nodup_idBlock]
    exact App.nodup_parts hfree hw (hmem c hc) hfs
  · intro c hc i hi
    obtain ⟨fs, -, hids⟩ := hblock c hc
    rw [hids] at hi
    have hname := App.mem_names_of_binding (hmem c hc) (List.mem_cons_self ..)
    exact idOwner_of_mem_idBlock (Name.not_mem_dash (hfree _ hname)) hi

end Query

/-- **Ids are distinct, but for containers.** In the markup of a source whose names are told apart all ids are distinct,
unless a form on the first page shows a field called `container`: the input of that field has the id of the form's container.
The labels are for the inputs, in their order. -/
theorem nodup_ids_iff {o o' : Options} {file : Option String} {source : String} {a : App} {r : Artifacts}
    (hread : (readApp o' file source).1 = .ok a) (hw : a.WellNamed) (h : (compileApp o a).1 = .ok r) :
    ((ids r.markup).Nodup ↔ ¬ ∃ p b fs, a.landingPage? = some p ∧ b ∈ a.forms ∧ b.name ∈ p.components ∧
        a.lookupFields o ⟨.form, b⟩ = .ok fs ∧ "container" ∈ fs.map Field.name) ∧
      labelTargets r.markup = inputIds r.markup := by
  have hfree := App.isFree_of_declared (App.declared_of_readApp hread)
  have haccepted : ∀ n ∈ a.names, Name.isAccepted n.toList = true := fun n hn => Name.isAccepted_of_isFree (hfree n hn)
  obtain ⟨hmarkup, hscript, -⟩ := compileApp_eq_ok h
  have hlookup : ∀ k, ∀ b ∈ a.bindings k, ∃ fs, a.lookupFields o ⟨k, b⟩ = .ok fs := fun k b hb =>
    Script.exists_lookupFields hscript hb
  constructor
  · have hids : ids r.markup = Query.ids.ofApp a o := (Query.lawful_ids.collects_markup haccepted hmarkup).eq
    rw [hids, Query.ofApp]
    cases hp : a.landingPage? with
    | some p =>
      rw [Query.nodup_ids_page hfree hw hlookup (List.mem_of_mem_head? hp)]
      simp
    | none => simpa using Query.nodup_ids_bindings hfree hw hlookup
  · have hlabels : (Query.ofElement "label" (attributeValues "for") Query.inputId).Lawful :=
      Query.lawful_labels fun form f hform hf => Query.attributeValues_for form hform hf "for" (by decide)
    have hinputs : (Query.ofElement "input" (attributeValues "id") Query.inputId).Lawful :=
      Query.lawful_inputs fun form f hform hf => (Query.attributeValues_input hform hf).1
    calc labelTargets r.markup
      _ = (tags r.markup).flatMap (Query.ofElement "label" (attributeValues "for") Query.inputId).read :=
        (Query.flatMap_ofElement _ _).symm
      _ = (Query.ofElement "label" (attributeValues "for") Query.inputId).ofApp a o :=
        (hlabels.collects_markup haccepted hmarkup).eq
      _ = (tags r.markup).flatMap (Query.ofElement "input" (attributeValues "id") Query.inputId).read :=
        (hinputs.collects_markup haccepted hmarkup).eq.symm
      _ = inputIds r.markup := Query.flatMap_ofElement _ _

/-- a page with a form, a list and a name that means nothing; a field is called like a part of the list -/
def App.noted : App :=
  ⟨[⟨"Note", [⟨"body", "text", true, none⟩, ⟨"done", "boolean", false, none⟩]⟩], [⟨"Sign", "Note", []⟩],
    [⟨"Cards", "Note", []⟩], [⟨"Notes", "Note", ["body"]⟩], [⟨"Main", "Notes", ["Sign", "Notes", "Nowhere"]⟩]⟩

theorem nodup_ids_noted : App.noted.WellNamed ∧ (readApp .standard none App.noted.source).1 = .ok App.noted ∧
    ∃ r, (compileApp .standard App.noted).1 = .ok r ∧ (ids r.markup).Nodup ∧ labelTargets r.markup = inputIds r.markup := by
  have hexpressible : App.noted.Expressible := by
    refine ⟨by decide +kernel, ?_, by decide +kernel⟩
    simp [App.noted]
  have hread := readApp_source (o := .standard) rfl none hexpressible
  have hw : App.noted.WellNamed := ⟨by decide, by decide, fun k => by cases k <;> decide, by decide⟩
  obtain ⟨r, hr⟩ : ∃ r, (compileApp .standard App.noted).1 = .ok r := exists_compileApp_eq_ok rfl rfl
  obtain ⟨hnodup, hlabels⟩ := nodup_ids_iff hread hw hr
  refine ⟨hw, hread, r, hr, hnodup.2 ?_, hlabels⟩
  rintro ⟨p, b, fs, -, hb, -, hfs, hcontainer⟩
  rw [List.mem_singleton.1 hb] at hfs
  cases hfs
  revert hcontainer
  decide

/-- a form on a page that shows a field called like its container -/
def App.contained : App :=
  ⟨[⟨"M", [⟨"container", "text", false, none⟩]⟩], [⟨"F", "M", []⟩], [], [], [⟨"P", "p", ["F"]⟩]⟩

/-- its source -/
def containedSource : String :=
  " model M \x7b field container : text ; \x7d form F ( M ) \x7b \x7d page P ( \"p\" ) \x7b F \x7d "

theorem container_id_twice :
    App.contained.WellNamed ∧ (readApp .standard none containedSource).1 = .ok App.contained ∧
      ∃ r, (compileApp .standard App.contained).1 = .ok r ∧
        ids r.markup = ["F-container", "F", "F-form", "F-container"] ∧ ¬ (ids r.markup).Nodup := by
  have hexpressible : App.contained.Expressible := by
    refine ⟨by decide +kernel, ?_, by decide +kernel⟩
    simp [App.contained]
  have hsource : App.contained.source = containedSource := by decide +kernel
  have hw : App.contained.WellNamed := ⟨by decide, by decide, fun k => by cases k <;> decide, by decide⟩
  obtain ⟨r, hr⟩ : ∃ r, (compileApp .standard App.contained).1 = .ok r := exists_compileApp_eq_ok rfl rfl
  have hids : ids r.markup = ["F-container", "F", "F-form", "F-container"] :=
    (Query.lawful_ids.collects_markup (by decide) (compileApp_eq_ok hr).1).eq
  have hread := readApp_source (o := .standard) rfl none hexpressible
  rw [hsource] at hread
  refine ⟨hw, hread, r, hr, hids, ?_⟩
  rw [hids]
  decide

end Pagewright
