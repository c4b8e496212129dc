/-
Markup is put together from plain text, tags and attributes. A property that these pieces have and that putting pieces
together keeps is a property of every fragment, and of markup as a whole (`Compositional.markup`). Names, capitalised names
and escaped text are plain: they hold neither an angle bracket nor a quote.
-/
import Pagewright.Proofs.App.Names
import Pagewright.Proofs.Artifact.Marks
import Pagewright.Proofs.Artifact.Success
import Pagewright.Proofs.Text.Reading

namespace Pagewright

open Text Html

/-! ## Plain text -/

/-- text that neither opens a tag nor ends the value of an attribute -/
def Plain (s : String) : Prop := ∀ c ∈ s.toList, c ≠ '<' ∧ c ≠ '"'

theorem plain_append {s t : String} : Plain (s ++ t) ↔ Plain s ∧ Plain t := by
  unfold Plain
  rw [String.toList_append]
  exact List.forall_mem_append

theorem plain_ofList {l : List Char} (h : '<' ∉ l ∧ '"' ∉ l) : Plain (String.ofList l) := by
  intro c hc
  rw [String.toList_ofList] at hc
  constructor
  · rintro rfl
    exact h.1 hc
  · rintro rfl
    exact h.2 hc

theorem plain_of_isChar {s : String} (h : ∀ c ∈ s.toList, Name.isChar c = true) : Plain s := by
  intro c hc
  have hne : ∀ d ∈ "\"'\\<>/(){}[],.;:=&".toList, c ≠ d := by
    rintro d hd rfl
    have hchar := h _ hc
    rw [Name.not_isChar_of_mem hd] at hchar
    cases hchar
  exact ⟨hne '<' (by decide), hne '"' (by decide)⟩

theorem plain_name {n : String} (h : Name.isAccepted n.toList = true) : Plain n :=
  plain_of_isChar fun _ hc => Name.isChar_of_isAccepted h hc

theorem plain_capitalised {n : String} (h : Name.isAccepted n.toList = true) : Plain (capitalised n) :=
  plain_of_isChar fun _ hc => Name.isChar_of_mem_capitalised h hc

theorem plain_escape (s : String) : Plain (escape s) := by
  intro d hd
  rw [escape, String.toList_ofList] at hd
  obtain ⟨c, -, hd⟩ := List.mem_flatMap.1 hd
  have hmark := isMark_of_mem_escapeChar hd
  constructor
  · rintro rfl
    cases hmark
  · rintro rfl
    cases hmark

theorem plain_kind (k : FieldKind) : Plain k.name := by
  cases k with
  | text => exact plain_ofList (by decide)
  | number => exact plain_ofList (by decide)
  | boolean => exact plain_ofList (by decide)
  | date => exact plain_ofList (by decide)

theorem plain_inputType (f : Field) : Plain (Fragment.inputType f) := by
  have htext : Plain (Fragment.textInputType f.name) := by
    unfold Fragment.textInputType
    dsimp only
    split_ifs
    · exact plain_ofList (by decide)
    · exact plain_ofList (by decide)
    · exact plain_ofList (by decide)
  unfold Fragment.inputType
  cases f.kind with
  | text => exact htext
  | number => exact plain_ofList (by decide)
  | boolean => exact plain_ofList (by decide)
  | date => exact plain_ofList (by decide)

/-- the id of an input -/
theorem plain_inputId {form field : String} (hform : Name.isAccepted form.toList = true)
    (hfield : Name.isAccepted field.toList = true) : Plain (form ++ "-" ++ field) :=
  plain_append.2 ⟨plain_append.2 ⟨plain_name hform, plain_ofList (by decide)⟩, plain_name hfield⟩

/-! ## Properties of pieces -/

/-- the elements of documents, other than those of the script and the stylesheet -/
def elements : List String :=
  ["html", "head", "meta", "title", "body", "header", "main", "footer", "div", "h1", "h3", "p", "form", "label", "input",
    "button", "table", "thead", "tbody", "tr", "th"]

/-- the attributes whose values are no code -/
def plainAttributes : List String :=
  ["lang", "charset", "content", "class", "for", "type", "id", "name", "data-field-type", "value"]

/-- a property that pieces of markup have, and that putting pieces together keeps -/
structure Compositional (P : String → Prop) : Prop where
  text {s : String} (h : Plain s) : P s
  append {s t : String} (hs : P s) (ht : P t) : P (s ++ t)
  tag {t : String} (h : t ∈ elements) : P ("<" ++ t) ∧ P ("</" ++ t)
  valued {n v : String} (hn : n ∈ plainAttributes) (hv : Plain v) : P (attr n v).text

namespace Compositional

variable {P : String → Prop} (hP : Compositional P) {ls : Lines}

include hP

theorem literal {l : List Char} (h : '<' ∉ l ∧ '"' ∉ l) : P (String.ofList l) := hP.text (plain_ofList h)

theorem join (h : Every P ls) : P (String.join ls) := by
  induction ls with
  | nil => exact hP.literal (l := []) (by decide)
  | cons l ls ih =>
    obtain ⟨hl, hls⟩ := every_cons.1 h
    rw [String.join_cons]
    exact hP.append hl (ih hls)

theorem indent (h : Every P ls) : Every P (indent ls) := by
  unfold Text.indent
  refine every_map.2 fun l hl => ?_
  unfold indentLine
  split
  · exact h l hl
  · exact hP.append (hP.literal (by decide)) (h l hl)

theorem orBlank (h : Every P ls) : Every P (orBlank ls) := by
  unfold Text.orBlank
  cases ls with
  | nil => exact every_cons.2 ⟨hP.literal (l := []) (by decide), every_nil⟩
  | cons l ls => exact h

theorem unlines (h : Every P ls) : P (unlines ls) := by
  unfold Text.unlines
  induction ls with
  | nil => exact hP.literal (l := []) (by decide)
  | cons l ls ih =>
    obtain ⟨hl, hls⟩ := every_cons.1 h
    cases ls with
    | nil => simpa using hl
    | cons m ms =>
      rw [String.intercalate_cons_cons]
      exact hP.append (hP.append hl (hP.literal (by decide))) (ih hls)

section

variable {t : String} (htag : t ∈ elements) {attributes : List Attribute}
  (hattributes : ∀ a ∈ attributes, P a.text)

include htag

theorem closing : P (closing t) := hP.append (hP.tag htag).2 (hP.literal (by decide))

include hattributes

theorem opening : P (opening t attributes) := by
  have hjoined : P (String.join (attributes.map Attribute.text)) := hP.join (every_map.2 hattributes)
  exact hP.append (hP.append (hP.tag htag).1 hjoined) (hP.literal (by decide))

theorem inline {content : String} (hcontent : P content) : P (inline t attributes content) :=
  hP.append (hP.append (hP.opening htag hattributes) hcontent) (hP.closing htag)

theorem around (h : Every P ls) : Every P (around t attributes ls) := by
  unfold Html.around
  rw [every_append, every_append, every_cons, every_cons]
  exact ⟨⟨⟨hP.opening htag hattributes, every_nil⟩, h⟩, hP.closing htag, every_nil⟩

theorem enclosing (h : Every P ls) : Every P (enclosing t attributes ls) :=
  hP.around htag hattributes (hP.indent h)

end

end Compositional

/-! ## Fragments -/

namespace Compositional

open Fragment

variable {P : String → Prop} (hP : Compositional P)

include hP

theorem initialValue (f : Field) : ∀ a ∈ initialValue f, P a.text := by
  unfold Fragment.initialValue
  intro a ha
  split at ha
  · cases ha
  · split_ifs at ha with hkind htrue
    · rw [List.mem_singleton.1 ha]
      exact hP.append (hP.literal (by decide)) (hP.literal (by decide))
    · cases ha
    · rw [List.mem_singleton.1 ha]
      exact hP.valued (by decide) (plain_escape _)

theorem styled {s : String} (h : Plain s) : P (styled s).text := hP.valued (by decide) h

/-- an element with a class -/
theorem withClass {s : String} (h : Plain s) : ∀ a ∈ [Fragment.styled s], P a.text :=
  List.forall_mem_singleton.2 (hP.styled h)

/-- an element with an id and a class -/
theorem withId {i s : String} (hid : Plain i) (h : Plain s) : ∀ a ∈ [attr "id" i, Fragment.styled s], P a.text :=
  List.forall_mem_cons.2 ⟨hP.valued (by decide) hid, hP.withClass h⟩

theorem heading {n : String} (h : Name.isAccepted n.toList = true) : P (Html.inline "h3" [] (capitalised n)) :=
  hP.inline (by decide) (List.forall_mem_nil _) (hP.text (plain_capitalised h))

theorem inputGroup {form : String} (hform : Name.isAccepted form.toList = true) {f : Field}
    (hf : Name.isAccepted f.name.toList = true) : Every P (inputGroup form f) := by
  have hid := plain_inputId hform hf
  have hrequired : ∀ a ∈ (if f.required then [flag "required"] else []), P a.text := by
    intro a ha
    split_ifs at ha
    · rw [List.mem_singleton.1 ha]
      exact hP.append (hP.literal (by decide)) (hP.literal (by decide))
    · cases ha
  have hlabel : P (Html.inline "label" [attr "for" (form ++ "-" ++ f.name)] (capitalised f.name)) := by
    refine hP.inline (by decide) ?_ (hP.text (plain_capitalised hf))
    simpa using hP.valued (by decide) hid
  have hclass := hP.withClass (s := "sweb-form-group") (plain_ofList (by decide))
  refine hP.enclosing (by decide) hclass (every_cons.2 ⟨hlabel, every_cons.2 ⟨hP.opening (by decide) ?_, every_nil⟩⟩)
  · simp only [List.forall_mem_append, List.forall_mem_cons]
    refine ⟨⟨⟨hP.valued (by decide) (plain_inputType f), hP.valued (by decide) hid, hP.valued (by decide) (plain_name hf),
      hP.styled (plain_ofList (by decide)), hP.valued (by decide) (plain_kind f.kind), by simp⟩, hrequired⟩, hP.initialValue f⟩

/-- a form, given what its two handlers look like in attributes -/
theorem form {b : Binding} (hname : Name.isAccepted b.name.toList = true)
    (hsubmit : P (attr "onsubmit" ("return handleSubmit_" ++ b.name ++ "(event)")).text)
    (hreset : P (attr "onclick" ("resetForm_" ++ b.name ++ "()")).text) {fields : List Field}
    (hfields : ∀ f ∈ fields, Name.isAccepted f.name.toList = true) : P (form b fields) := by
  have hgroups : Every P (fields.flatMap (Fragment.inputGroup b.name)) :=
    every_flatMap.2 fun f hf => hP.inputGroup hname (hfields f hf)
  have hactions : Every P (formActions b.name) := by
    have hbutton : P (Html.inline "button" [attr "type" "submit", Fragment.styled "sweb-button sweb-primary"] "Submit") := by
      refine hP.inline (by decide) ?_ (hP.literal (by decide))
      simpa using ⟨hP.valued (n := "type") (by decide) (plain_ofList (by decide)), hP.styled (plain_ofList (by decide))⟩
    have hclear : P (Html.inline "button" [attr "type" "button", Fragment.styled "sweb-button sweb-secondary",
        attr "onclick" ("resetForm_" ++ b.name ++ "()")] "Reset") := by
      refine hP.inline (by decide) ?_ (hP.literal (by decide))
      simpa using ⟨hP.valued (n := "type") (by decide) (plain_ofList (by decide)), hP.styled (plain_ofList (by decide)),
        hreset⟩
    exact hP.enclosing (by decide) (hP.withClass (plain_ofList (by decide)))
      (every_cons.2 ⟨hbutton, every_cons.2 ⟨hclear, every_nil⟩⟩)
  have hform : Every P (Html.enclosing "form" [attr "id" (b.name ++ "-form"), Fragment.styled "sweb-form",
      attr "onsubmit" ("return handleSubmit_" ++ b.name ++ "(event)")]
      (Text.orBlank (fields.flatMap (Fragment.inputGroup b.name)) ++ formActions b.name)) := by
    refine hP.enclosing (by decide) ?_ (every_append.2 ⟨hP.orBlank hgroups, hactions⟩)
    have hid : Plain (b.name ++ "-form") := plain_append.2 ⟨plain_name hname, plain_ofList (by decide)⟩
    simpa using ⟨hP.valued (n := "id") (by decide) hid, hP.styled (plain_ofList (by decide)), hsubmit⟩
  exact hP.unlines (hP.enclosing (by decide) (hP.withId (plain_name hname) (plain_ofList (by decide)))
    (every_append.2 ⟨every_cons.2 ⟨hP.heading hname, every_nil⟩, hform⟩))

theorem list {b : Binding} (hname : Name.isAccepted b.name.toList = true) {fields : List Field}
    (hfields : ∀ f ∈ fields, Name.isAccepted f.name.toList = true) : P (list b fields) := by
  have hheaders : Every P (fields.map (fun f => Html.inline "th" [] (capitalised f.name)) ++
      [Html.inline "th" [] "Actions"]) := by
    refine every_append.2 ⟨every_map.2 fun f hf => ?_, every_cons.2 ⟨?_, every_nil⟩⟩
    · exact hP.inline (by decide) (List.forall_mem_nil _) (hP.text (plain_capitalised (hfields f hf)))
    · exact hP.inline (by decide) (List.forall_mem_nil _) (hP.literal (by decide))
  have hrow : P (Html.inline "tr" [] (String.join (fields.map (fun f => Html.inline "th" [] (capitalised f.name)) ++
      [Html.inline "th" [] "Actions"]))) :=
    hP.inline (by decide) (List.forall_mem_nil _) (hP.join hheaders)
  have hhead : Every P (Html.enclosing "thead" [] [Html.inline "tr" [] (String.join
      (fields.map (fun f => Html.inline "th" [] (capitalised f.name)) ++ [Html.inline "th" [] "Actions"]))]) :=
    hP.enclosing (by decide) (List.forall_mem_nil _) (every_cons.2 ⟨hrow, every_nil⟩)
  have hbody : P (Html.inline "tbody" [attr "id" (b.name ++ "-body")] "") := by
    have hid : Plain (b.name ++ "-body") := plain_append.2 ⟨plain_name hname, plain_ofList (by decide)⟩
    refine hP.inline (by decide) ?_ (hP.literal (l := []) (by decide))
    exact List.forall_mem_singleton.2 (hP.valued (by decide) hid)
  have htable := hP.enclosing (t := "table") (by decide) (hP.withClass (s := "sweb-table") (plain_ofList (by decide)))
    (every_append.2 ⟨hhead, every_cons.2 ⟨hbody, every_nil⟩⟩)
  exact hP.unlines (hP.enclosing (by decide) (hP.withId (plain_name hname) (plain_ofList (by decide)))
    (every_append.2 ⟨every_cons.2 ⟨hP.heading hname, every_nil⟩, htable⟩))

theorem view {b : Binding} (hname : Name.isAccepted b.name.toList = true) : P (view b) := by
  have hid : Plain (b.name ++ "-body") := plain_append.2 ⟨plain_name hname, plain_ofList (by decide)⟩
  have hbody : P (Html.inline "div" [attr "id" (b.name ++ "-body"), Fragment.styled "sweb-cards"] "") :=
    hP.inline (by decide) (hP.withId hid (plain_ofList (by decide))) (hP.literal (l := []) (by decide))
  exact hP.unlines (hP.enclosing (by decide) (hP.withId (plain_name hname) (plain_ofList (by decide)))
    (every_cons.2 ⟨hP.heading hname, every_cons.2 ⟨hbody, every_nil⟩⟩))

theorem missing {name : String} (h : Name.isAccepted name.toList = true) : P (missing name) := by
  have htext : Plain ("Component " ++ name ++ " not found") :=
    plain_append.2 ⟨plain_append.2 ⟨plain_ofList (by decide), plain_name h⟩, plain_ofList (by decide)⟩
  exact hP.inline (by decide) (hP.withClass (plain_ofList (by decide))) (hP.text htext)

/-- the frame around a body; its two texts are escaped -/
theorem shell {body : String} (h : P body) (title footer : String) : P (shell title body footer) := by
  have hcolumns : ∀ s, P s → P ("  " ++ s) := fun s hs => hP.append (hP.literal (by decide)) hs
  have hheader := hP.enclosing (t := "header") (by decide) (hP.withClass (s := "sweb-header") (plain_ofList (by decide)))
    (every_cons.2 ⟨hP.inline (t := "h1") (by decide) (List.forall_mem_nil _) (hP.text (plain_escape title)), every_nil⟩)
  have hfooter := hP.enclosing (t := "footer") (by decide) (hP.withClass (s := "sweb-footer") (plain_ofList (by decide)))
    (every_cons.2 ⟨hP.inline (t := "p") (by decide) (List.forall_mem_nil _) (hP.text (plain_escape footer)), every_nil⟩)
  have hopen := hcolumns _ (hP.opening (t := "main") (by decide)
    (hP.withClass (s := "sweb-main") (plain_ofList (by decide))))
  have hclose := hcolumns _ (hP.closing (t := "main") (by decide))
  have hmain : Every P ["  " ++ Html.opening "main" [Fragment.styled "sweb-main"], body, "  " ++ Html.closing "main"] :=
    every_cons.2 ⟨hopen, every_cons.2 ⟨h, every_cons.2 ⟨hclose, every_nil⟩⟩⟩
  exact hP.unlines (hP.around (by decide) (hP.withClass (plain_ofList (by decide)))
    (every_append.2 ⟨every_append.2 ⟨hP.indent hheader, hmain⟩, hP.indent hfooter⟩))

theorem container {name : String} (hname : Name.isAccepted name.toList = true) {content : String} (h : P content) :
    P (container name content) := by
  have hid : Plain (name ++ "-container") := plain_append.2 ⟨plain_name hname, plain_ofList (by decide)⟩
  have hfilling : P (filling content) := by
    unfold filling
    split
    · exact hP.literal (l := []) (by decide)
    · exact hP.append (hP.append (hP.literal (by decide)) h) (hP.literal (by decide))
  exact hP.append (hP.literal (by decide))
    (hP.inline (by decide) (hP.withId hid (plain_ofList (by decide))) hfilling)

theorem containers {p : Page} (hnames : ∀ n ∈ p.components, Name.isAccepted n.toList = true)
    {fragments : List (String × String)} (h : ∀ x ∈ fragments, P x.2) : P (containers p fragments) := by
  have hlookup : ∀ name, P ((fragments.lookup name).getD "") := by
    intro name
    cases hx : fragments.lookup name with
    | none => exact hP.literal (l := []) (by decide)
    | some s =>
      obtain ⟨l, m, rfl, -⟩ := List.lookup_eq_some_iff.1 hx
      exact h (name, s) (List.mem_append_right _ (List.mem_cons_self ..))
  exact hP.unlines (every_map.2 fun name hname => hP.container (hnames name hname) (hlookup name))

end Compositional

/-! ## Markup -/

namespace Compositional

variable {P : String → Prop} (hP : Compositional P) {a : App} {o : Options}
  (hnames : ∀ n ∈ a.names, Name.isAccepted n.toList = true)
  (hhandlers : ∀ b ∈ a.forms, P (attr "onsubmit" ("return handleSubmit_" ++ b.name ++ "(event)")).text ∧
    P (attr "onclick" ("resetForm_" ++ b.name ++ "()")).text)

include hP hnames hhandlers

theorem ofComponent {c : Component} (hc : c.binding ∈ a.bindings c.kind) {fs : List Field}
    (h : a.lookupFields o c = .ok fs) : P (Fragment.ofComponent c fs) := by
  have hname : Name.isAccepted c.binding.name.toList = true :=
    hnames _ (App.mem_names_of_binding hc (List.mem_cons_self ..))
  have hfields : ∀ f ∈ fs, Name.isAccepted f.name.toList = true := fun f hf =>
    hnames _ (App.name_mem_of_lookupFields hc h hf)
  obtain ⟨k, b⟩ := c
  cases k with
  | form => exact hP.form hname (hhandlers b hc).1 (hhandlers b hc).2 hfields
  | list => exact hP.list hname hfields
  | view => exact hP.view hname

/-- what is shown for a name on a page -/
theorem componentHtml {p : Page} (hp : p ∈ a.pages) {name : String} (hname : name ∈ p.components)
    {r : Option Component × String} (h : (a.componentHtml o p name).result = .ok r) : P r.2 := by
  have haccepted := hnames name (App.mem_names_of_page hp (List.mem_cons_of_mem _ hname))
  obtain ⟨hr, ⟨-, hmissing⟩ | ⟨c, fs, hc, hfs, hfragment⟩⟩ := App.componentHtml_eq_ok h
  · rw [hmissing]
    exact hP.missing haccepted
  · rw [hfragment]
    rw [hc] at hr
    exact hP.ofComponent hnames hhandlers (App.component?_mem hr.symm) hfs

theorem markup {s : String} (h : (a.markup o).result = .ok s) : P s := by
  obtain ⟨p, hp, fragments, hfragments, rfl⟩ | ⟨forms, lists, hforms, hlists, rfl⟩ := App.markup_eq_ok h
  · have hcomponents : ∀ n ∈ p.components, Name.isAccepted n.toList = true := fun n hn =>
      hnames n (App.mem_names_of_page hp (List.mem_cons_of_mem _ hn))
    refine hP.shell (hP.containers hcomponents fun x hx => ?_) _ _
    obtain ⟨name, hname, r, hr, rfl⟩ := exists_left_of_forall₂ hfragments hx
    exact hP.componentHtml hnames hhandlers hp hname hr
  · have hbinding : ∀ (k : BindingKind) (texts : List String),
        List.Forall₂ (fun b t => (a.bindingHtml o ⟨k, b⟩).result = .ok t) (a.bindings k) texts → Every P texts := by
      intro k texts h t ht
      obtain ⟨b, hb, hbt⟩ := exists_left_of_forall₂ h ht
      obtain ⟨fs, hfs, rfl⟩ := App.bindingHtml_eq_ok hbt
      exact hP.ofComponent hnames hhandlers hb hfs
    exact hP.shell (hP.unlines (every_append.2 ⟨hbinding .form _ hforms, hbinding .list _ hlists⟩)) _ _

end Compositional

end Pagewright
