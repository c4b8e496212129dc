/-
The structure of markup is made of four characters: angle brackets and quotes. Free text is escaped wherever markup shows
it, so it adds none of them: two applications that differ in free text alone have markup with the same marks in the same
order (`agree_marks_markup`).

`marks` is a homomorphism, and all layout is transparent for it: line ends and indents have no marks.
-/
import Pagewright.Proofs.App.FreeText
import Pagewright.Proofs.Reference

namespace Pagewright

open Text Html

/-- the characters that delimit tags and the values of attributes -/
def isMark (c : Char) : Bool := c = '<' || c = '>' || c = '"' || c = '\''

/-- the marks of a text, in their order -/
def marks (s : String) : List Char := s.toList.filter isMark

/-! ## Layout -/

@[simp] theorem marks_append (s t : String) : marks (s ++ t) = marks s ++ marks t := by
  simp [marks]

@[simp] theorem marks_indentLine (l : String) : marks (indentLine l) = marks l := by
  unfold indentLine
  split
  · rfl
  · simp [show marks "  " = [] from by decide]

@[simp] theorem marks_join (ls : List String) : marks (String.join ls) = ls.flatMap marks := by
  induction ls with
  | nil => rfl
  | cons l ls ih => simp [ih]

@[simp] theorem marks_unlines (ls : Lines) : marks (unlines ls) = ls.flatMap marks := by
  unfold unlines
  induction ls with
  | nil => rfl
  | cons l ls ih =>
    cases ls with
    | nil => simp
    | cons m ms =>
      rw [String.intercalate_cons_cons, marks_append, marks_append, ih]
      simp [show marks "\n" = [] from by decide]

@[simp] theorem marks_indent (ls : Lines) : (indent ls).flatMap marks = ls.flatMap marks := by
  simp [indent, List.flatMap_map]

@[simp] theorem marks_orBlank (ls : Lines) : (orBlank ls).flatMap marks = ls.flatMap marks := by
  unfold orBlank
  cases ls <;> simp [show marks "" = [] from by decide]

/-! ## Elements -/

@[simp] theorem marks_opening (tag : String) (attributes : List Attribute) :
    marks (opening tag attributes) = ['<'] ++ marks tag ++ attributes.flatMap (fun a => marks a.text) ++ ['>'] := by
  simp [opening, List.flatMap_map, show marks "<" = ['<'] from by decide, show marks ">" = ['>'] from by decide]

@[simp] theorem marks_enclosing (tag : String) (attributes : List Attribute) (ls : Lines) :
    (enclosing tag attributes ls).flatMap marks =
      marks (opening tag attributes) ++ ls.flatMap marks ++ marks (closing tag) := by
  simp [enclosing, around]

/-- the escape of a character is free of marks -/
theorem isMark_of_mem_escapeChar {c d : Char} (h : d ∈ escapeChar c) : isMark d = false := by
  have hfree : ∀ l : List Char, l.all (fun e => !isMark e) = true → d ∈ l → isMark d = false := by
    intro l hl hd
    simpa using List.all_eq_true.1 hl d hd
  unfold escapeChar at h
  split_ifs at h with h₁ h₂ h₃ h₄ h₅
  case pos => exact hfree _ (by decide) h
  case pos => exact hfree _ (by decide) h
  case pos => exact hfree _ (by decide) h
  case pos => exact hfree _ (by decide) h
  case pos => exact hfree _ (by decide) h
  case neg =>
    rw [List.mem_singleton.1 h]
    simp [isMark, h₂, h₃, h₄, h₅]

/-- escaped text has no marks -/
@[simp] theorem marks_escape (s : String) : marks (escape s) = [] := by
  simp only [marks, escape, String.toList_ofList, List.filter_eq_nil_iff, List.mem_flatMap, Bool.not_eq_true]
  rintro d ⟨c, -, hd⟩
  exact isMark_of_mem_escapeChar hd

/-! ## Fragments -/

/-- a default shows the same marks whatever text it is -/
theorem marks_initialValue {f g : Field} (h : f.withoutText = g.withoutText) :
    (Fragment.initialValue f).flatMap (fun a => marks a.text) =
      (Fragment.initialValue g).flatMap (fun a => marks a.text) := by
  have hkind := Field.kind_eq_of_withoutText h
  obtain ⟨-, -, -, hdefault⟩ := Field.eq_of_withoutText h
  unfold Fragment.initialValue
  rw [hkind]
  cases hf : f.default with
  | none =>
    cases hg : g.default with
    | none => rfl
    | some l => simp [hf, hg] at hdefault
  | some k =>
    cases hg : g.default with
    | none => simp [hf, hg] at hdefault
    | some l =>
      have hkl : k.withoutText = l.withoutText := by simpa [hf, hg] using hdefault
      have htrue : k = .bool true ↔ l = .bool true := by
        rw [← Literal.withoutText_eq_bool, hkl, Literal.withoutText_eq_bool]
      by_cases hb : g.kind = .boolean
      · simp [hb, htrue]
      · simp [hb, attr, Attribute.text]

theorem marks_inputGroup (form : String) {f g : Field} (h : f.withoutText = g.withoutText) :
    (Fragment.inputGroup form f).flatMap marks = (Fragment.inputGroup form g).flatMap marks := by
  obtain ⟨hname, -, hrequired, -⟩ := Field.eq_of_withoutText h
  have hkind := Field.kind_eq_of_withoutText h
  have hvalue := marks_initialValue h
  simp [Fragment.inputGroup, Fragment.inputType, hname, hrequired, hkind, hvalue]

/-- a form shows the same marks whatever texts its defaults are -/
theorem marks_form (b : Binding) {fs gs : List Field} (h : fs.map Field.withoutText = gs.map Field.withoutText) :
    marks (Fragment.form b fs) = marks (Fragment.form b gs) := by
  have hgroups : (fs.flatMap (Fragment.inputGroup b.name)).flatMap marks =
      (gs.flatMap (Fragment.inputGroup b.name)).flatMap marks := by
    have hfs := forall₂_of_map_eq h
    induction hfs with
    | nil => rfl
    | cons hf _ ih =>
      simp only [List.map_cons, List.cons.injEq] at h
      simp only [List.flatMap_cons, List.flatMap_append, marks_inputGroup b.name hf, ih h.2]
  simp only [Fragment.form, marks_unlines, marks_enclosing, List.flatMap_append, marks_orBlank, hgroups]

theorem marks_shell (title body footer title' body' footer' : String) (h : marks body = marks body') :
    marks (Fragment.shell title body footer) = marks (Fragment.shell title' body' footer') := by
  simp [Fragment.shell, around, Html.inline, h]

theorem marks_filling (s : String) : marks (Fragment.filling s) = marks s := by
  unfold Fragment.filling
  split
  · next h =>
    rw [String.isEmpty_iff.1 h]
  · simp [show marks "\n" = [] from by decide, show marks "\n    " = [] from by decide]

/-- containers filled with fragments of the same marks have the same marks -/
theorem marks_containers {p q : Page} (hpq : p.components = q.components) {l m : List (String × String)}
    (h : List.Forall₂ (fun x y => x.1 = y.1 ∧ marks x.2 = marks y.2) l m) :
    marks (Fragment.containers p l) = marks (Fragment.containers q m) := by
  have hlookup : ∀ name, marks ((l.lookup name).getD "") = marks ((m.lookup name).getD "") := by
    intro name
    induction h with
    | nil => rfl
    | @cons x y l m hxy _ ih =>
      obtain ⟨hname, hmarks⟩ := hxy
      obtain ⟨xn, xs⟩ := x
      obtain ⟨yn, ys⟩ := y
      simp only at hname hmarks
      rw [hname, List.lookup_cons, List.lookup_cons]
      cases name == yn with
      | true => exact hmarks
      | false => exact ih
  simp [Fragment.containers, Fragment.container, Html.inline, marks_filling, hlookup, hpq, List.flatMap_map]

/-! ## Markup -/

/-- fragments of the same page, with the names they stand under -/
theorem agree_fragments {a b : App} {o o' : Options} (hab : a.withoutText = b.withoutText)
    (ho : o.withoutText = o'.withoutText) (p q : Page) (hpq : p.components = q.components) :
    Agree (List.Forall₂ fun x y => x.1 = y.1 ∧ marks x.2 = marks y.2)
      (Generated.each (fun name => do let r ← a.componentHtml o p name; pure (name, r.2)) p.components).result
      (Generated.each (fun name => do let r ← b.componentHtml o' q name; pure (name, r.2)) q.components).result := by
  rw [hpq]
  refine Agree.each_same fun name _ => ?_
  have hcomponent := App.agree_componentHtml hab ho (R := fun s t => marks s = marks t) (fun _ => rfl)
    (fun c _ _ h => marks_form c h) p q name
  refine Agree.bind hcomponent fun r s hrs => ?_
  exact .ok ⟨rfl, hrs.2⟩

/-- bindings of the same kind, one after the other -/
theorem agree_each_bindingHtml {a b : App} {o o' : Options} (hab : a.withoutText = b.withoutText)
    (ho : o.withoutText = o'.withoutText) (k : BindingKind) (l : List Binding) :
    Agree (List.Forall₂ fun s t => marks s = marks t) (Generated.each (fun c => a.bindingHtml o ⟨k, c⟩) l).result
      (Generated.each (fun c => b.bindingHtml o' ⟨k, c⟩) l).result := by
  refine Agree.each_same fun c _ => ?_
  exact App.agree_bindingHtml hab ho (R := fun s t => marks s = marks t) (fun _ => rfl)
    (fun c _ _ h => marks_form c h) ⟨k, c⟩

theorem flatMap_marks_eq {l m : List String} (h : List.Forall₂ (fun s t => marks s = marks t) l m) :
    l.flatMap marks = m.flatMap marks := by
  induction h with
  | nil => rfl
  | cons hst _ ih => simp [hst, ih]

/-- markup with the same marks, or the same fault -/
theorem agree_markup {a b : App} {o o' : Options} (hab : a.withoutText = b.withoutText)
    (ho : o.withoutText = o'.withoutText) :
    Agree (fun s t => marks s = marks t) (a.markup o).result (b.markup o').result := by
  have hpages : List.Forall₂ (fun p q => p.withoutText = q.withoutText) a.pages b.pages :=
    forall₂_of_map_eq (congrArg App.pages hab)
  unfold App.markup App.landingPage?
  revert hpages
  generalize a.pages = ps
  generalize b.pages = qs
  intro hpages
  cases hpages with
  | nil =>
    have hforms : a.forms = b.forms := congrFun (App.bindings_eq_of_withoutText hab) .form
    have hlists : a.lists = b.lists := congrFun (App.bindings_eq_of_withoutText hab) .list
    simp only [List.head?_nil]
    unfold App.fallbackHtml
    rw [hforms, hlists]
    refine Agree.bind (agree_each_bindingHtml hab ho .form b.forms) fun forms forms' hf => ?_
    refine Agree.bind (agree_each_bindingHtml hab ho .list b.lists) fun lists lists' hl => ?_
    refine .ok (marks_shell _ _ _ _ _ _ ?_)
    simp only [marks_unlines, List.flatMap_append, flatMap_marks_eq hf, flatMap_marks_eq hl]
  | @cons p q _ _ hpq _ =>
    obtain ⟨-, hcomponents⟩ := Page.eq_of_withoutText hpq
    simp only [List.head?_cons]
    refine Agree.bind (agree_fragments hab ho p q hcomponents) fun l m hlm => ?_
    exact .ok (marks_shell _ _ _ _ _ _ (marks_containers hcomponents hlm))

/-- **Free text leaves the structure of markup alone.** Two applications that are equal without titles and texts of
defaults, under options that are equal without the two texts of the page, have the same fault, or markup with the same marks
in the same order. The fault is a reference, unless the first binding that cannot be shown is a form with a default of more
than 4300 digits. -/
theorem agree_marks_markup {a b : App} {o o' : Options} (hab : a.withoutText = b.withoutText)
    (ho : o.withoutText = o'.withoutText) :
    Agree (fun s t => marks s = marks t) (a.markup o).result (b.markup o').result ∧
      ((a.markup o).result = .error .numeral ↔ ∃ pre c post, a.shownComponents = pre ++ c :: post ∧
        (∀ d ∈ pre, ¬ a.Dangles o d ∧ ¬ a.ShowsOverlong o d) ∧ a.ShowsOverlong o c) :=
  ⟨agree_markup hab ho, App.markup_eq_numeral⟩

/-- tags and quotes in the title and in the default of a form, against plain text -/
theorem agree_marks_guestbook :
    (App.guestbook "<h1>" "\"> <script>").withoutText = (App.guestbook "Guests" "").withoutText ∧
      Agree (fun s t => marks s = marks t) ((App.guestbook "<h1>" "\"> <script>").markup .standard).result
        ((App.guestbook "Guests" "").markup { Options.standard with footerText := "'" }).result := by
  have hsame : (App.guestbook "<h1>" "\"> <script>").withoutText = (App.guestbook "Guests" "").withoutText := rfl
  have hoptions : Options.standard.withoutText = { Options.standard with footerText := "'" }.withoutText := rfl
  exact ⟨hsame, (agree_marks_markup hsame hoptions).1⟩

theorem markup_tally {n : Int} (h : Field.IsOverlong ⟨"count", "number", true, some (.int n)⟩) :
    ((App.tally n).markup .standard).result = .error .numeral := by
  have hfields : (App.tally n).lookupFields .standard ⟨.form, ⟨"Count", "Tally", []⟩⟩ =
      .ok [⟨"count", "number", true, some (.int n)⟩] := rfl
  have hshows : (App.tally n).ShowsOverlong .standard ⟨.form, ⟨"Count", "Tally", []⟩⟩ := by
    refine ⟨rfl, _, hfields, _, List.mem_singleton_self _, ?_, h⟩
    simp [Field.kind, FieldKind.ofName?, FieldKind.name]
  exact App.markup_eq_numeral.2 ⟨[], _, [], rfl, List.forall_mem_nil _, hshows⟩

/-- a number of 4301 digits in a form is no reference that leads nowhere, and gets no markup -/
theorem markup_tally_overlong : ((App.tally (10 ^ 4300)).markup .standard).result = .error .numeral :=
  markup_tally (Field.isOverlong_of_default rfl (le_refl 4300))

end Pagewright
