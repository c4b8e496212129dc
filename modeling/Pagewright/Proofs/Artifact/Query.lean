/-
What can be asked about the elements of markup. Ids stand on the elements of components and containers and on the inputs of
forms; labels and inputs come in pairs, one for each field. A `Query` asks about these tags and about no others, and its
answer on a fragment, or on markup as a whole, is put together from its answers for ids and fields (`Lawful.collects_form`,
`Lawful.collects_markup`), whatever the free text is.
-/
import Pagewright.Proofs.Artifact.Placement
import Pagewright.Proofs.Artifact.Tags

namespace Pagewright

open Text Html

def Fragment.inputAttributes (form : String) (f : Field) : List Attribute :=
  [attr "type" (inputType f), attr "id" (form ++ "-" ++ f.name), attr "name" f.name, styled "sweb-input",
    attr "data-field-type" f.kind.name] ++ (if f.required then [flag "required"] else []) ++ initialValue f

/-- what is asked: of any tag, and what the answer is for an element with an id and for the label and input of a field -/
structure Query (α : Type) where
  read : List Char → List α
  ofId : String → List α
  ofField : String → Field → List α

namespace Query

/-- the tag is neither that of a label nor that of an input -/
def IsOther (t : String) : Prop := t ∈ elements ∧ t ≠ "label" ∧ t ≠ "input"

instance (t : String) : Decidable (IsOther t) := inferInstanceAs (Decidable (_ ∧ _ ∧ _))

/-- the answers are as told, and there are none for other tags -/
structure Lawful {α : Type} (Q : Query α) : Prop where
  closing {t : String} (ht : t ∈ elements) : Q.read ('/' :: t.toList) = []
  other {t : String} (ht : IsOther t) {as : List Attribute} (has : ∀ a ∈ as, Neat a ∧ a.name ≠ "id") :
    Q.read (inside t as) = []
  withId {t : String} (ht : IsOther t) {i : String} (hi : Plain i) {as : List Attribute}
    (has : ∀ a ∈ as, Neat a ∧ a.name ≠ "id") : Q.read (inside t (attr "id" i :: as)) = Q.ofId i
  field {form : String} (hform : Name.isAccepted form.toList = true) {f : Field}
    (hf : Name.isAccepted f.name.toList = true) :
    Q.read (inside "label" [attr "for" (form ++ "-" ++ f.name)]) ++
      Q.read (inside "input" (Fragment.inputAttributes form f)) = Q.ofField form f

/-! ## Attributes of fragments -/

theorem plain_id {n m : String} (hn : Name.isAccepted n.toList = true) (hm : Plain m) : Plain (n ++ m) :=
  plain_append.2 ⟨plain_name hn, hm⟩

/-- a class as the only attribute, or the only one after the id -/
theorem neat_styled {l : List Char} (h : '<' ∉ l ∧ '"' ∉ l) :
    ∀ a ∈ [Fragment.styled (String.ofList l)], Neat a ∧ a.name ≠ "id" := by
  rw [List.forall_mem_singleton]
  exact ⟨neat_attr (by decide) (plain_ofList h), by simp [Fragment.styled, attr]⟩

theorem neat_nil : ∀ a ∈ ([] : List Attribute), Neat a ∧ a.name ≠ "id" := List.forall_mem_nil _

theorem neat_initialValue (f : Field) : ∀ a ∈ Fragment.initialValue f, Neat a := by
  unfold Fragment.initialValue
  intro a ha
  split at ha
  · cases ha
  · split_ifs at ha with hkind htrue
    · rw [List.mem_singleton.1 ha]
      exact neat_flag (by decide)
    · cases ha
    · rw [List.mem_singleton.1 ha]
      exact neat_attr (by decide) (plain_escape _)

theorem neat_inputAttributes {form : String} (hform : Name.isAccepted form.toList = true) {f : Field}
    (hf : Name.isAccepted f.name.toList = true) : ∀ a ∈ Fragment.inputAttributes form f, Neat a := by
  have hrequired : ∀ a ∈ (if f.required then [flag "required"] else []), Neat a := by
    intro a ha
    split_ifs at ha
    · rw [List.mem_singleton.1 ha]
      exact neat_flag (by decide)
    · cases ha
  simp only [Fragment.inputAttributes, List.forall_mem_append, List.forall_mem_cons]
  refine ⟨⟨⟨?_, ?_, ?_, ?_, ?_, List.forall_mem_nil _⟩, hrequired⟩, neat_initialValue f⟩
  · exact neat_attr (by decide) (plain_inputType f)
  · exact neat_attr (by decide) (plain_inputId hform hf)
  · exact neat_attr (by decide) (plain_name hf)
  · exact neat_attr (by decide) (plain_ofList (by decide))
  · exact neat_attr (by decide) (plain_kind f.kind)

/-- the id of the input of a field, and the text it starts with -/
theorem attributeValues_input {form : String} (hform : Name.isAccepted form.toList = true) {f : Field}
    (hf : Name.isAccepted f.name.toList = true) :
    attributeValues "id" (inside "input" (Fragment.inputAttributes form f)) = [form ++ "-" ++ f.name] ∧
      attributeValues "value" (inside "input" (Fragment.inputAttributes form f)) =
        (Fragment.initialValue f).filterMap fun a => if a.name = "value" then a.value else none := by
  have hneat := neat_inputAttributes hform hf
  have hvalue : (Fragment.initialValue f).filterMap (fun a => if a.name = "id" then a.value else none) = [] := by
    unfold Fragment.initialValue
    split
    · rfl
    · split_ifs
      all_goals simp [flag, attr]
  have hrequired : ∀ n : String, (if f.required then [flag "required"] else []).filterMap
      (fun a => if a.name = n then a.value else none) = [] := by
    intro n
    split_ifs
    · simp [flag]
    · rfl
  rw [attributeValues_inside (by decide) (by decide) hneat, attributeValues_inside (by decide) (by decide) hneat]
  simp only [Fragment.inputAttributes, List.filterMap_append, hrequired, hvalue]
  simp [attr, Fragment.styled]

/-! ## Fragments -/

namespace Lawful

variable {α : Type} {Q : Query α} (hQ : Q.Lawful)

/-- no tag is named by a character that ends it or a value in it -/
theorem neat_tag {t : String} (ht : t ∈ elements) : '>' ∉ t.toList ∧ '"' ∉ t.toList := by
  have hall : ∀ t ∈ elements, '>' ∉ t.toList ∧ '"' ∉ t.toList := by decide
  exact hall t ht

include hQ

theorem collects_closing {t : String} (ht : t ∈ elements) : Collects Q.read (Html.closing t) [] :=
  Html.collects_closing (neat_tag ht) (hQ.closing ht)

theorem collects_other {t : String} (ht : IsOther t) {as : List Attribute} (has : ∀ a ∈ as, Neat a ∧ a.name ≠ "id") :
    Collects Q.read (opening t as) [] :=
  collects_opening (neat_tag ht.1) (fun a ha => (has a ha).1) (hQ.other ht has)

theorem collects_withId {t : String} (ht : IsOther t) {i : String} (hi : Plain i) {as : List Attribute}
    (has : ∀ a ∈ as, Neat a ∧ a.name ≠ "id") : Collects Q.read (opening t (attr "id" i :: as)) (Q.ofId i) := by
  refine collects_opening (neat_tag ht.1) (List.forall_mem_cons.2 ⟨?_, fun a ha => (has a ha).1⟩) (hQ.withId ht hi has)
  exact neat_attr (by decide) hi

/-- an element without an id, on one line -/
theorem collects_inline {t : String} (ht : IsOther t) {as : List Attribute} (has : ∀ a ∈ as, Neat a ∧ a.name ≠ "id")
    {s : String} {xs : List α} (hs : Collects Q.read s xs) : Collects Q.read (Html.inline t as s) xs :=
  (hQ.collects_other ht has).inline hs (hQ.collects_closing ht.1)

/-- an element without an id, over several lines -/
theorem collects_enclosing {t : String} (ht : IsOther t) {as : List Attribute}
    (has : ∀ a ∈ as, Neat a ∧ a.name ≠ "id") {ls : Lines} {xs : List α} (hls : CollectsLines Q.read ls xs) :
    CollectsLines Q.read (enclosing t as ls) xs :=
  CollectsLines.enclosing (hQ.collects_other ht has) hls (hQ.collects_closing ht.1)

theorem collects_heading {n : String} (hn : Name.isAccepted n.toList = true) :
    Collects Q.read (Html.inline "h3" [] (capitalised n)) [] :=
  hQ.collects_inline (by decide) neat_nil (collects_text (plain_capitalised hn))

/-- the element of a component, which has the component's name for an id -/
theorem collects_component {n : String} (hn : Name.isAccepted n.toList = true) {l : List Char} (hl : '<' ∉ l ∧ '"' ∉ l)
    {ls : Lines} {xs : List α} (hls : CollectsLines Q.read ls xs) :
    CollectsLines Q.read (enclosing "div" [attr "id" n, Fragment.styled (String.ofList l)] ls) (Q.ofId n ++ xs) :=
  CollectsLines.enclosing (hQ.collects_withId (by decide) (plain_name hn) (neat_styled hl)) hls
    (hQ.collects_closing (by decide))

theorem collects_inputGroup {form : String} (hform : Name.isAccepted form.toList = true) {f : Field}
    (hf : Name.isAccepted f.name.toList = true) : CollectsLines Q.read (Fragment.inputGroup form f) (Q.ofField form f) := by
  have hfor : ∀ a ∈ [attr "for" (form ++ "-" ++ f.name)], Neat a :=
    List.forall_mem_singleton.2 (neat_attr (by decide) (plain_inputId hform hf))
  have hlabel : Collects Q.read (opening "label" [attr "for" (form ++ "-" ++ f.name)])
      (Q.read (inside "label" [attr "for" (form ++ "-" ++ f.name)])) := collects_opening (by decide) hfor rfl
  have hinput : Collects Q.read (opening "input" (Fragment.inputAttributes form f))
      (Q.read (inside "input" (Fragment.inputAttributes form f))) :=
    collects_opening (by decide) (neat_inputAttributes hform hf) rfl
  have hnamed := hlabel.inline (collects_text (plain_capitalised hf)) (hQ.collects_closing (by decide))
  have hpair := CollectsLines.cons hnamed (CollectsLines.line hinput)
  rw [List.append_nil, hQ.field hform hf] at hpair
  exact hQ.collects_enclosing (t := "div") (by decide) (neat_styled (by decide)) hpair

theorem collects_formActions {form : String} (hform : Name.isAccepted form.toList = true) :
    CollectsLines Q.read (Fragment.formActions form) [] := by
  have hreset : Plain ("resetForm_" ++ form ++ "()") :=
    plain_append.2 ⟨plain_append.2 ⟨plain_ofList (by decide), plain_name hform⟩, plain_ofList (by decide)⟩
  have htype : ∀ l : List Char, '<' ∉ l ∧ '"' ∉ l → Neat (attr "type" (String.ofList l)) ∧
      (attr "type" (String.ofList l)).name ≠ "id" := fun l hl => ⟨neat_attr (by decide) (plain_ofList hl), by simp [attr]⟩
  have hsubmit : Collects Q.read (Html.inline "button" [attr "type" "submit",
      Fragment.styled "sweb-button sweb-primary"] "Submit") [] := by
    refine hQ.collects_inline (by decide) (List.forall_mem_cons.2 ⟨htype _ (by decide), neat_styled (by decide)⟩) ?_
    exact collects_ofList (by decide)
  have hclear : Collects Q.read (Html.inline "button" [attr "type" "button",
      Fragment.styled "sweb-button sweb-secondary", attr "onclick" ("resetForm_" ++ form ++ "()")] "Reset") [] := by
    refine hQ.collects_inline (by decide) (List.forall_mem_cons.2 ⟨htype _ (by decide), ?_⟩) (collects_ofList (by decide))
    refine List.forall_mem_cons.2 ⟨neat_styled (by decide) _ List.mem_cons_self, List.forall_mem_singleton.2 ?_⟩
    exact ⟨neat_attr (by decide) hreset, by simp [attr]⟩
  exact hQ.collects_enclosing (t := "div") (by decide) (neat_styled (by decide))
    (CollectsLines.cons hsubmit (CollectsLines.line hclear))

/-- a form has an id, its form element has one, and then come its fields -/
theorem collects_form {b : Binding} (hb : Name.isAccepted b.name.toList = true) {fields : List Field}
    (hfields : ∀ f ∈ fields, Name.isAccepted f.name.toList = true) :
    Collects Q.read (Fragment.form b fields)
      (Q.ofId b.name ++ (Q.ofId (b.name ++ "-form") ++ fields.flatMap (Q.ofField b.name))) := by
  have hsubmit : Plain ("return handleSubmit_" ++ b.name ++ "(event)") :=
    plain_append.2 ⟨plain_append.2 ⟨plain_ofList (by decide), plain_name hb⟩, plain_ofList (by decide)⟩
  have hattributes : ∀ a ∈ [Fragment.styled "sweb-form", attr "onsubmit" ("return handleSubmit_" ++ b.name ++ "(event)")],
      Neat a ∧ a.name ≠ "id" := by
    refine List.forall_mem_cons.2 ⟨neat_styled (by decide) _ List.mem_cons_self, List.forall_mem_singleton.2 ?_⟩
    exact ⟨neat_attr (by decide) hsubmit, by simp [attr]⟩
  have hgroups := CollectsLines.flatMap fun f hf => hQ.collects_inputGroup hb (hfields f hf)
  have hcontent := hgroups.orBlank.append (hQ.collects_formActions hb)
  rw [List.append_nil] at hcontent
  have hid : Plain (b.name ++ "-form") := plain_id hb (plain_ofList (by decide))
  have hform := CollectsLines.enclosing (hQ.collects_withId (t := "form") (by decide) hid hattributes) hcontent
    (hQ.collects_closing (by decide))
  exact (hQ.collects_component hb (by decide) (CollectsLines.cons (hQ.collects_heading hb) hform)).unlines

theorem collects_list {b : Binding} (hb : Name.isAccepted b.name.toList = true) {fields : List Field}
    (hfields : ∀ f ∈ fields, Name.isAccepted f.name.toList = true) :
    Collects Q.read (Fragment.list b fields) (Q.ofId b.name ++ Q.ofId (b.name ++ "-body")) := by
  have hcell : ∀ s, Plain s → Collects Q.read (Html.inline "th" [] s) [] := fun s hs =>
    hQ.collects_inline (by decide) neat_nil (collects_text hs)
  have hheaders : ∀ l ∈ fields.map (fun f => Html.inline "th" [] (capitalised f.name)) ++ [Html.inline "th" [] "Actions"],
      Collects Q.read l [] := by
    rw [List.forall_mem_append, List.forall_mem_map, List.forall_mem_singleton]
    exact ⟨fun f hf => hcell _ (plain_capitalised (hfields f hf)), hcell _ (plain_ofList (by decide))⟩
  have hrow := hQ.collects_inline (t := "tr") (by decide) neat_nil (collects_join hheaders)
  have hhead := hQ.collects_enclosing (t := "thead") (by decide) neat_nil (CollectsLines.line hrow)
  have hid : Plain (b.name ++ "-body") := plain_id hb (plain_ofList (by decide))
  have hbody := (hQ.collects_withId (t := "tbody") (by decide) hid neat_nil).inline
    (collects_ofList (l := []) (by decide)) (hQ.collects_closing (by decide))
  have htable := hQ.collects_enclosing (t := "table") (by decide) (neat_styled (l := "sweb-table".toList) (by decide))
    (hhead.append (CollectsLines.line hbody))
  rw [List.append_nil] at htable
  exact (hQ.collects_component hb (by decide) (CollectsLines.cons (hQ.collects_heading hb) htable)).unlines

theorem collects_view {b : Binding} (hb : Name.isAccepted b.name.toList = true) :
    Collects Q.read (Fragment.view b) (Q.ofId b.name ++ Q.ofId (b.name ++ "-body")) := by
  have hid : Plain (b.name ++ "-body") := plain_id hb (plain_ofList (by decide))
  have hbody := (hQ.collects_withId (t := "div") (by decide) hid (neat_styled (l := "sweb-cards".toList) (by decide))).inline
    (collects_ofList (l := []) (by decide)) (hQ.collects_closing (by decide))
  rw [List.append_nil] at hbody
  have hlines := CollectsLines.cons (hQ.collects_heading hb) (CollectsLines.line hbody)
  exact (hQ.collects_component hb (by decide) hlines).unlines

theorem collects_missing {n : String} (hn : Name.isAccepted n.toList = true) : Collects Q.read (Fragment.missing n) [] := by
  have htext : Plain ("Component " ++ n ++ " not found") :=
    plain_append.2 ⟨plain_append.2 ⟨plain_ofList (by decide), plain_name hn⟩, plain_ofList (by decide)⟩
  exact hQ.collects_inline (by decide) (neat_styled (by decide)) (collects_text htext)

/-- the frame of a page adds nothing to its body -/
theorem collects_shell {body : String} {xs : List α} (h : Collects Q.read body xs) (title footer : String) :
    Collects Q.read (Fragment.shell title body footer) xs := by
  have hcolumns : ∀ s, Collects Q.read s [] → Collects Q.read ("  " ++ s) [] := fun s hs =>
    (collects_ofList (l := [' ', ' ']) (by decide)).append hs
  have htext : ∀ t, IsOther t → ∀ s, CollectsLines Q.read [Html.inline t [] (escape s)] [] := fun t ht s =>
    CollectsLines.line (hQ.collects_inline ht neat_nil (collects_text (plain_escape s)))
  have hheader := hQ.collects_enclosing (t := "header") (by decide) (neat_styled (l := "sweb-header".toList) (by decide))
    (htext "h1" (by decide) title)
  have hfooter := hQ.collects_enclosing (t := "footer") (by decide) (neat_styled (l := "sweb-footer".toList) (by decide))
    (htext "p" (by decide) footer)
  have hopen := hcolumns _ (hQ.collects_other (t := "main") (by decide) (neat_styled (l := "sweb-main".toList) (by decide)))
  have hclose := hcolumns _ (hQ.collects_closing (t := "main") (by decide))
  have hmain := CollectsLines.cons hopen (CollectsLines.cons h (CollectsLines.line hclose))
  have happ := hQ.collects_other (t := "div") (by decide) (neat_styled (l := "sweb-app".toList) (by decide))
  have hall := CollectsLines.around happ ((hheader.indent.append hmain).append hfooter.indent)
    (hQ.collects_closing (by decide))
  simpa [Fragment.shell] using hall.unlines

theorem collects_container {n : String} (hn : Name.isAccepted n.toList = true) {content : String} {xs : List α}
    (h : Collects Q.read content xs) :
    Collects Q.read (Fragment.container n content) (Q.ofId (n ++ "-container") ++ xs) := by
  have hfilling : Collects Q.read (Fragment.filling content) xs := by
    unfold Fragment.filling
    split
    · next hempty =>
      rw [String.isEmpty_iff.1 hempty] at h
      exact h
    · have hbefore : Collects Q.read "\n" [] := collects_ofList (by decide)
      have hafter : Collects Q.read "\n    " [] := collects_ofList (by decide)
      simpa using (hbefore.append h).append hafter
  have hid : Plain (n ++ "-container") := plain_id hn (plain_ofList (by decide))
  have hopen := hQ.collects_withId (t := "div") (by decide) hid (neat_styled (l := "sweb-component".toList) (by decide))
  have hinline := hopen.inline hfilling (hQ.collects_closing (by decide))
  exact (collects_ofList (l := "    ".toList) (by decide)).append hinline

end Lawful

/-! ## Labels and inputs -/

section

variable {α : Type}

/-- a question about the elements of one name -/
def ofElement (element : String) (read : List Char → List α) (ofField : String → Field → List α) : Query α where
  read tag := if tagName tag = element then read tag else []
  ofId _ := []
  ofField := ofField

variable {read : List Char → List α} {ofField : String → Field → List α}

theorem flatMap_ofElement (element : String) (l : List (List Char)) :
    l.flatMap (ofElement element read ofField).read = (l.filter fun tag => tagName tag = element).flatMap read := by
  induction l with
  | nil => rfl
  | cons tag l ih =>
    rw [List.flatMap_cons, ih]
    by_cases h : tagName tag = element
    · simp [ofElement, h]
    · simp [ofElement, h]

theorem tagName_closing {t element : String} (h : '/' ∉ element.toList) : tagName ('/' :: t.toList) ≠ element := by
  intro heq
  apply h
  rw [← heq]
  simp [tagName]

theorem tagName_element {t : String} (ht : t ∈ elements) (as : List Attribute) : tagName (inside t as) = t := by
  have hblank : ∀ t ∈ elements, ' ' ∉ t.toList := by decide
  exact tagName_inside (hblank t ht) as

/-- nothing is read off other tags, so what matters is what is read off the label and the input of a field -/
theorem lawful_ofElement {element : String} (helement : element = "label" ∨ element = "input")
    (hfield : ∀ form f, Name.isAccepted form.toList = true → Name.isAccepted f.name.toList = true →
      (ofElement element read ofField).read (inside "label" [attr "for" (form ++ "-" ++ f.name)]) ++
        (ofElement element read ofField).read (inside "input" (Fragment.inputAttributes form f)) = ofField form f) :
    (ofElement element read ofField).Lawful := by
  have hslash : '/' ∉ element.toList := by
    rcases helement with rfl | rfl
    · decide
    · decide
  have hother : ∀ t, IsOther t → t ≠ element := by
    intro t ht
    rcases helement with rfl | rfl
    · exact ht.2.1
    · exact ht.2.2
  have hread : ∀ t, IsOther t → ∀ as, (ofElement element read ofField).read (inside t as) = [] := by
    intro t ht as
    refine if_neg ?_
    rw [tagName_element ht.1]
    exact hother t ht
  exact ⟨fun _ => if_neg (tagName_closing hslash), fun ht as _ => hread _ ht _, fun ht _ _ as _ => hread _ ht _,
    fun hform f hf => hfield _ _ hform hf⟩

theorem lawful_labels (hfield : ∀ form f, Name.isAccepted form.toList = true → Name.isAccepted f.name.toList = true →
      read (inside "label" [attr "for" (form ++ "-" ++ f.name)]) = ofField form f) :
    (ofElement "label" read ofField).Lawful := by
  refine lawful_ofElement (Or.inl rfl) fun form f hform hf => ?_
  have hlabel := tagName_element (t := "label") (by decide) [attr "for" (form ++ "-" ++ f.name)]
  have hinput := tagName_element (t := "input") (by decide) (Fragment.inputAttributes form f)
  simp [ofElement, hlabel, hinput, hfield form f hform hf]

theorem lawful_inputs (hfield : ∀ form f, Name.isAccepted form.toList = true → Name.isAccepted f.name.toList = true →
      read (inside "input" (Fragment.inputAttributes form f)) = ofField form f) :
    (ofElement "input" read ofField).Lawful := by
  refine lawful_ofElement (Or.inr rfl) fun form f hform hf => ?_
  have hlabel := tagName_element (t := "label") (by decide) [attr "for" (form ++ "-" ++ f.name)]
  have hinput := tagName_element (t := "input") (by decide) (Fragment.inputAttributes form f)
  simp [ofElement, hlabel, hinput, hfield form f hform hf]

end

/-! ## Markup -/

variable {α : Type} (Q : Query α)

/-- the answer for a component with the fields it shows -/
def ofComponent (c : Component) (fields : List Field) : List α :=
  Q.ofId c.binding.name ++
    match c.kind with
    | .form => Q.ofId (c.binding.name ++ "-form") ++ fields.flatMap (Q.ofField c.binding.name)
    | _ => Q.ofId (c.binding.name ++ "-body")

/-- the answer for a binding, or nothing if its fields cannot be looked up -/
def ofBinding (a : App) (o : Options) (c : Component) : List α :=
  match a.lookupFields o c with
  | .ok fields => Q.ofComponent c fields
  | .error _ => []

theorem ofBinding_eq {a : App} {o : Options} {c : Component} {fields : List Field} (h : a.lookupFields o c = .ok fields) :
    Q.ofBinding a o c = Q.ofComponent c fields := by
  rw [ofBinding, h]

/-- the answer for a name on a page, in its container -/
def ofName (a : App) (o : Options) (n : String) : List α :=
  Q.ofId (n ++ "-container") ++ (a.component? n).elim [] (Q.ofBinding a o)

/-- the answer for what markup shows: the names on the first page, or all forms and lists -/
def ofApp (a : App) (o : Options) : List α :=
  match a.landingPage? with
  | some p => p.components.flatMap (Q.ofName a o)
  | none => (a.components .form ++ a.components .list).flatMap (Q.ofBinding a o)

namespace Lawful

variable {Q} (hQ : Q.Lawful) {a : App} {o : Options} (hnames : ∀ n ∈ a.names, Name.isAccepted n.toList = true)

include hQ hnames

theorem collects_bindingHtml {c : Component} (hc : c.binding ∈ a.bindings c.kind) {s : String}
    (h : (a.bindingHtml o c).result = .ok s) : Collects Q.read s (Q.ofBinding a o c) := by
  obtain ⟨fs, hfs, rfl⟩ := App.bindingHtml_eq_ok h
  have hname : Name.isAccepted c.binding.name.toList = true :=
    hnames _ (App.mem_names_of_binding hc (List.mem_cons_self ..))
  have hfields : ∀ f ∈ fs, Name.isAccepted f.name.toList = true := fun f hf =>
    hnames _ (App.name_mem_of_lookupFields hc hfs hf)
  rw [ofBinding, hfs]
  obtain ⟨k, b⟩ := c
  cases k with
  | form => exact hQ.collects_form hname hfields
  | list => exact hQ.collects_list hname hfields
  | view => exact hQ.collects_view hname

theorem collects_componentHtml {p : Page} (hp : p ∈ a.pages) {n : String} (hn : n ∈ p.components)
    {r : Option Component × String} (h : (a.componentHtml o p n).result = .ok r) :
    Collects Q.read (Fragment.container n r.2) (Q.ofName a o n) := by
  have hname : Name.isAccepted n.toList = true := hnames n (App.mem_names_of_page hp (List.mem_cons_of_mem _ hn))
  refine hQ.collects_container hname ?_
  unfold App.componentHtml at h
  cases hc : a.component? n with
  | none =>
    rw [hc] at h
    obtain ⟨-, -, h⟩ := Generated.bind_eq_ok.1 h
    rw [← Generated.pure_eq_ok.1 h]
    exact hQ.collects_missing hname
  | some c =>
    rw [hc] at h
    obtain ⟨s, hs, h⟩ := Generated.bind_eq_ok.1 h
    rw [← Generated.pure_eq_ok.1 h]
    exact hQ.collects_bindingHtml hnames (App.component?_mem hc) hs

/-- what is asked of markup is answered for what it shows -/
theorem collects_markup {s : String} (h : (a.markup o).result = .ok s) : Collects Q.read s (Q.ofApp a o) := by
  unfold ofApp
  cases hp : a.landingPage? with
  | some p =>
    obtain ⟨shown, hshown, rfl⟩ := Shows.exists_of_markup hp h
    have hpage : p ∈ a.pages := List.mem_of_mem_head? hp
    rw [Fragment.containers_map, List.map_eq_flatMap]
    refine hQ.collects_shell (CollectsLines.unlines (CollectsLines.flatMap fun n hn => CollectsLines.line ?_)) _ _
    exact hQ.collects_componentHtml hnames hpage hn (hshown n hn)
  | none =>
    unfold App.markup at h
    rw [hp] at h
    obtain ⟨forms, hforms, h⟩ := Generated.bind_eq_ok.1 h
    obtain ⟨lists, hlists, h⟩ := Generated.bind_eq_ok.1 h
    have hkind : ∀ (k : BindingKind) (ls : Lines),
        (Generated.each (fun b => a.bindingHtml o ⟨k, b⟩) (a.bindings k)).result = .ok ls →
          CollectsLines Q.read ls ((a.components k).flatMap (Q.ofBinding a o)) := by
      intro k ls hls
      rw [App.components, List.flatMap_map]
      exact CollectsLines.forall₂ (Generated.each_eq_ok.1 hls) fun b hb s hs => hQ.collects_bindingHtml hnames hb hs
    rw [← Generated.pure_eq_ok.1 h, List.flatMap_append]
    exact hQ.collects_shell ((hkind .form _ hforms).append (hkind .list _ hlists)).unlines _ _

end Lawful

end Query

end Pagewright
