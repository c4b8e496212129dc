/-
Every line of a script is sound, so a script as a whole is: it ends outside literals and closes no element. Free text
reaches a script only inside literals, so two applications that differ in free text alone have scripts with the same code
(`agree_code_script`).
-/
import Pagewright.Proofs.Artifact.Code

namespace Pagewright.Script

open Text

/-! ## Layout -/

@[simp] theorem sound_block {head tail : String} {body : Lines} :
    Every Sound (block head body tail) ↔ Sound (head ++ " " ++ openBrace) ∧ Every Sound body ∧ Sound (closeBrace ++ tail) :=
  stackable_sound.every_block

@[simp] theorem sound_indent {ls : Lines} : Every Sound (indent ls) ↔ Every Sound ls := stackable_sound.every_indent

@[simp] theorem sound_orBlank {ls : Lines} : Every Sound (orBlank ls) ↔ Every Sound ls := stackable_sound.every_orBlank

@[simp] theorem sound_paragraphs {gs : List Lines} : Every Sound (paragraphs gs) ↔ ∀ g ∈ gs, Every Sound g :=
  stackable_sound.every_paragraphs

theorem sound_ofList {l : List Char} (h : reading Spot.next .code l = some .code) : Sound (String.ofList l) := by
  unfold Sound Loops
  rw [String.toList_ofList]
  exact h

/-! ## Texts with the same code -/

/-- two sound texts that differ at most inside literals -/
structure SameCode (s t : String) : Prop where
  left : Sound s
  right : Sound t
  code : code s = code t

/-- lines that differ at most inside literals -/
abbrev SameLines : Lines → Lines → Prop := List.Forall₂ SameCode

theorem Sound.sameCode {s : String} (h : Sound s) : SameCode s s := ⟨h, h, rfl⟩

theorem SameCode.append {s s' t t' : String} (hs : SameCode s s') (ht : SameCode t t') : SameCode (s ++ t) (s' ++ t') where
  left := hs.left.append ht.left
  right := hs.right.append ht.right
  code := by rw [code_append hs.left.endsInCode, code_append hs.right.endsInCode, hs.code, ht.code]

theorem sameCode_scriptText (s t : String) : SameCode (scriptText s) (scriptText t) :=
  ⟨sound_scriptText s, sound_scriptText t, (code_scriptText s).trans (code_scriptText t).symm⟩

theorem sameLines_of_sound {ls : Lines} (h : Every Sound ls) : SameLines ls ls :=
  List.forall₂_same.2 fun l hl => (h l hl).sameCode

/-- a text has code unless it is empty -/
theorem code_eq_nil {s : String} : code s = [] ↔ s = "" := by
  constructor
  · intro h
    unfold code at h
    cases hs : s.toList with
    | nil => exact String.toList_eq_nil_iff.1 hs
    | cons c r => simp [hs, codeFrom, Mode.keeps] at h
  · rintro rfl
    rfl

theorem SameCode.indentLine {s t : String} (h : SameCode s t) : SameCode (indentLine s) (indentLine t) := by
  have hempty : s = "" ↔ t = "" := by rw [← code_eq_nil, h.code, code_eq_nil]
  unfold Text.indentLine
  by_cases ht : t = ""
  · rwa [hempty.2 ht, ht] at h ⊢
  · rw [if_neg (mt String.isEmpty_iff.1 ht), if_neg (mt String.isEmpty_iff.1 (mt hempty.1 ht))]
    exact (sound_ofList rfl : Sound "  ").sameCode.append h

namespace SameLines

variable {ls ms : Lines}

theorem append {ls' ms' : Lines} (h : SameLines ls ms) (h' : SameLines ls' ms') : SameLines (ls ++ ls') (ms ++ ms') :=
  List.rel_append h h'

theorem indent (h : SameLines ls ms) : SameLines (indent ls) (indent ms) := by
  have hlines := h.imp fun _ _ => SameCode.indentLine
  exact List.forall₂_map_left_iff.2 (List.forall₂_map_right_iff.2 hlines)

theorem block {head tail : String} (hhead : Sound head) (h : SameLines ls ms) (htail : Sound tail) :
    SameLines (block head ls tail) (block head ms tail) := by
  have hopen : Sound (head ++ " " ++ "\x7b") := (hhead.append (sound_ofList rfl)).append (sound_ofList rfl)
  have hclose : Sound ("\x7d" ++ tail) := Sound.append (sound_ofList rfl) htail
  exact append (append (.cons hopen.sameCode .nil) h.indent) (.cons hclose.sameCode .nil)

theorem orBlank (h : SameLines ls ms) : SameLines (orBlank ls) (orBlank ms) := by
  unfold Text.orBlank
  cases h with
  | nil => exact sameLines_of_sound (every_cons.2 ⟨stackable_sound.empty, every_nil⟩)
  | cons hlm h => exact .cons hlm h

theorem commaSeparated (h : SameLines ls ms) : SameLines (commaSeparated ls) (commaSeparated ms) := by
  induction h with
  | nil => exact .nil
  | cons hlm h ih =>
    cases h with
    | nil => exact .cons hlm .nil
    | cons _ _ => exact .cons (hlm.append (sound_ofList rfl : Sound ",").sameCode) ih

theorem intercalate {sep : String} (hsep : Sound sep) (h : SameLines ls ms) :
    SameCode (sep.intercalate ls) (sep.intercalate ms) := by
  induction h with
  | nil => exact stackable_sound.empty.sameCode
  | cons hlm h ih =>
    cases h with
    | nil => simpa using hlm
    | cons _ _ =>
      rw [String.intercalate_cons_cons, String.intercalate_cons_cons]
      exact (hlm.append hsep.sameCode).append ih

theorem unlines (h : SameLines ls ms) : SameCode (unlines ls) (unlines ms) := h.intercalate (sound_ofList rfl)

/-- groups that differ at most inside literals -/
theorem paragraphs {gs hs : List Lines} (h : List.Forall₂ SameLines gs hs) : SameLines (paragraphs gs) (paragraphs hs) := by
  unfold Script.paragraphs
  induction h with
  | nil => exact .nil
  | cons hlm h ih =>
    cases h with
    | nil => simpa using hlm
    | cons _ _ =>
      rw [List.intercalate_cons_cons, List.intercalate_cons_cons]
      exact (hlm.append (.cons stackable_sound.empty.sameCode .nil)).append ih

end SameLines

/-! ## Models -/

theorem sound_scriptLiteral (d : Option Literal) : Sound (scriptLiteral (.ofOption (d.map Literal.toValue))) := by
  by_cases h : ∃ s, d = some (.text s)
  · obtain ⟨s, rfl⟩ := h
    exact sound_scriptText s
  · refine sound_of_forall fun c hc => ?_
    have hwordy := isWordy_scriptLiteral (fun s hs => h ⟨s, hs⟩) hc
    constructor
    · rintro rfl
      cases hwordy
    · rintro rfl
      cases hwordy

/-- the literals of a default have the same code whatever text it is -/
theorem sameCode_scriptLiteral {d e : Option Literal} (h : d.map Literal.withoutText = e.map Literal.withoutText) :
    SameCode (scriptLiteral (.ofOption (d.map Literal.toValue))) (scriptLiteral (.ofOption (e.map Literal.toValue))) := by
  have hcases : d = e ∨ ∃ s t, d = some (.text s) ∧ e = some (.text t) := by
    cases d with
    | none => cases e <;> simp_all
    | some k =>
      cases e with
      | none => simp at h
      | some l => cases k <;> cases l <;> simp_all [Literal.withoutText]
  rcases hcases with rfl | ⟨s, t, rfl, rfl⟩
  · exact (sound_scriptLiteral d).sameCode
  · exact sameCode_scriptText s t

/-- the entry of a field has the same code whatever text its default is -/
theorem sameCode_fieldEntry {f g : Field} (hname : Name.isAccepted f.name.toList = true)
    (h : f.withoutText = g.withoutText) : SameCode (fieldEntry f) (fieldEntry g) := by
  obtain ⟨hn, htype, hrequired, hdefault⟩ := Field.eq_of_withoutText h
  have hkey : Sound (f.name ++ ": ") := (sound_name hname).append (sound_ofList rfl)
  have hopen : Sound ("\x7b" ++ " ") := (sound_ofList rfl).append (sound_ofList rfl)
  have hbefore : Sound ("type: " ++ scriptText f.type ++ ", required: " ++ scriptLiteral (.bool f.required) ++
      ", defaultValue: ") :=
    ((((sound_ofList rfl).append (sound_scriptText f.type)).append (sound_ofList rfl)).append
      (sound_scriptLiteral (some (.bool f.required)))).append (sound_ofList rfl)
  have hvalue := hbefore.sameCode.append (sameCode_scriptLiteral hdefault)
  unfold fieldEntry
  rw [← hn, ← htype, ← hrequired]
  exact hkey.sameCode.append (((hopen.sameCode.append hvalue).append (sound_ofList rfl : Sound " ").sameCode).append
    (sound_ofList rfl : Sound "\x7d").sameCode)

/-- what is known of a model has the same code whatever texts its defaults are -/
theorem sameLines_modelConstant {m k : Model} (hnames : ∀ n ∈ m.names, Name.isAccepted n.toList = true)
    (h : m.withoutText = k.withoutText) : SameLines (modelConstant m) (modelConstant k) := by
  obtain ⟨hmk, hfields⟩ := Model.eq_of_withoutText h
  have hname : Name.isAccepted m.name.toList = true := hnames _ (List.mem_cons_self ..)
  have hnamed : ∀ f ∈ m.fields, Name.isAccepted f.name.toList = true := fun f hf =>
    hnames _ (List.mem_cons_of_mem _ (List.mem_flatMap.2 ⟨f, hf, List.mem_cons_self ..⟩))
  have hentries : SameLines (m.fields.map fieldEntry) (k.fields.map fieldEntry) := by
    have hboth := (List.forall₂_and_left _ _).2 ⟨hnamed, forall₂_of_map_eq hfields⟩
    exact List.forall₂_map_left_iff.2 (List.forall₂_map_right_iff.2 (hboth.imp fun f g hfg =>
      sameCode_fieldEntry hfg.1 hfg.2))
  have hhead : Sound ("const " ++ m.name ++ "Model =") :=
    ((sound_ofList rfl).append (sound_name hname)).append (sound_ofList rfl)
  have htext : Sound ("name: " ++ scriptText m.name ++ ",") :=
    ((sound_ofList rfl).append (sound_scriptText _)).append (sound_ofList rfl)
  have hmembers : SameLines (block "fields:" (orBlank (commaSeparated (m.fields.map fieldEntry))) "")
      (block "fields:" (orBlank (commaSeparated (k.fields.map fieldEntry))) "") :=
    .block (sound_ofList rfl) hentries.commaSeparated.orBlank (sound_ofList rfl)
  unfold modelConstant
  rw [← hmk]
  exact .block hhead (.append (.cons htext.sameCode .nil) hmembers) (sound_ofList rfl)

theorem sameLines_modelLines {m k : Model} (hnames : ∀ n ∈ m.names, Name.isAccepted n.toList = true)
    (h : m.withoutText = k.withoutText) : SameLines (modelLines m) (modelLines k) := by
  have hname : Name.isAccepted m.name.toList = true := hnames _ (List.mem_cons_self ..)
  have hcomment : Sound ("// Model: " ++ m.name) := (sound_ofList rfl).append (sound_name hname)
  have hconstant := sameLines_modelConstant hnames h
  unfold modelLines
  rw [← (Model.eq_of_withoutText h).1]
  refine .paragraphs (.cons (.append (.cons hcomment.sameCode .nil) hconstant) ?_)
  -- what comes after the constant depends on the name of the model alone
  refine List.forall₂_same.2 fun g hg => sameLines_of_sound ?_
  revert g
  unfold findIndex function inBraces
  simp only [sound_block, every_append, every_cons, every_nil, List.forall_mem_cons, List.not_mem_nil, false_imp_iff,
    implies_true, and_true]
  simp only [Sound, Loops, String.toList_append, reading_append, reading_name hname]
  repeat rw [String.toList_ofList]
  and_intros <;> rfl

/-- the script of a model is written in both, or in none -/
theorem agree_modelScript {m n : Model} (hmn : m.withoutText = n.withoutText)
    (hlines : SameCode (unlines (modelLines m)) (unlines (modelLines n))) :
    Agree SameCode (modelScript m).result (modelScript n).result := by
  have hfields : List.Forall₂ (fun f g => f.withoutText = g.withoutText) m.fields n.fields :=
    forall₂_of_map_eq (Model.eq_of_withoutText hmn).2
  have hcheck : ∀ f g : Field, f.withoutText = g.withoutText →
      Agree (fun _ _ => True) (checkField m f).result (checkField n g).result := by
    intro f g hfg
    have hwritable : f.isWritable = g.isWritable := by rw [← f.isWritable_withoutText, hfg, g.isWritable_withoutText]
    unfold checkField
    rw [hwritable]
    have hrequire : Agree (fun _ _ => True) (Generated.require g.isWritable).result (Generated.require g.isWritable).result :=
      Agree.same fun _ => trivial
    exact Agree.bind (.ok trivial : Agree (fun _ _ => True) (Generated.warnUnless _ _).result _) fun _ _ _ => hrequire
  exact Agree.bind (Agree.each hcheck hfields) fun _ _ _ => .ok hlines

theorem sound_refreshCall {c : Component} (hname : Name.isAccepted c.binding.name.toList = true) :
    Sound (refreshCall c ++ ";") := by
  have hcall : Sound (refreshCall c) := by
    unfold refreshCall
    split
    · exact ((sound_ofList rfl).append (sound_name hname)).append (sound_ofList rfl)
    · exact ((sound_ofList rfl).append (sound_name hname)).append (sound_ofList rfl)
  exact hcall.append (sound_ofList rfl)

theorem sound_changeNotice {a : App} {m : Model} (hname : Name.isAccepted m.name.toList = true)
    (hdisplays : ∀ c ∈ a.displaysOf m.name, Name.isAccepted c.binding.name.toList = true) : Sound (changeNotice a m) := by
  have hcalls : Every Sound ((a.displaysOf m.name).map fun c => refreshCall c ++ ";") :=
    every_map.2 fun c hc => sound_refreshCall (hdisplays c hc)
  refine stackable_sound.unlines ?_
  unfold function
  simp only [sound_block, hcalls]
  simp only [Sound, Loops, String.toList_append, reading_append, reading_name hname]
  repeat rw [String.toList_ofList]
  and_intros <;> trivial

/-! ## Forms, lists and views -/

theorem sound_formLines {b : Binding} (hname : Name.isAccepted b.name.toList = true)
    (hmodel : Name.isAccepted b.model.toList = true) : Every Sound (formLines b) := by
  unfold formLines readElement switchCase function elementById
  simp only [sound_paragraphs, sound_block, sound_indent, every_append, every_cons, every_nil, List.forall_mem_cons,
    List.not_mem_nil, false_imp_iff, implies_true, and_true]
  simp only [Sound, Loops, String.toList_append, reading_append, reading_name hname, reading_name hmodel]
  repeat rw [String.toList_ofList]
  and_intros <;> rfl

theorem sound_shownValue {f : Field} (hname : Name.isAccepted f.name.toList = true) : Sound (shownValue f) := by
  have hn := sound_name hname
  unfold shownValue
  cases f.kind with
  | boolean => exact ((sound_ofList rfl).append hn).append (sound_ofList rfl)
  | text => exact ((sound_ofList rfl).append hn).append (sound_ofList rfl)
  | number => exact ((sound_ofList rfl).append hn).append (sound_ofList rfl)
  | date => exact ((sound_ofList rfl).append hn).append (sound_ofList rfl)

theorem sound_answerValue (f : Field) : Sound (answerValue f) := by
  unfold answerValue
  cases f.kind with
  | boolean => exact sound_ofList rfl
  | text => exact sound_ofList rfl
  | number => exact sound_ofList rfl
  | date => exact sound_ofList rfl

theorem sound_cell {f : Field} (hname : Name.isAccepted f.name.toList = true) : Sound (cell f) :=
  ((sound_ofList rfl).append (sound_shownValue hname)).append (sound_ofList rfl)

theorem sound_cardLine {f : Field} (hname : Name.isAccepted f.name.toList = true) : Sound (cardLine f) :=
  ((((sound_ofList rfl).append (sound_scriptText _)).append (sound_ofList rfl)).append (sound_shownValue hname)).append
    (sound_ofList rfl)

theorem sound_question {f : Field} (hname : Name.isAccepted f.name.toList = true) : Every Sound (question f) := by
  have hanswer : Sound ("newData." ++ f.name ++ " = " ++ answerValue f ++ ";") :=
    ((((sound_ofList rfl).append (sound_name hname)).append (sound_ofList rfl)).append (sound_answerValue f)).append
      (sound_ofList rfl)
  unfold question
  simp only [sound_block, every_append, every_cons, every_nil, hanswer, and_true, true_and]
  simp only [Sound, Loops, String.toList_append, reading_append, reading_name hname]
  repeat rw [String.toList_ofList]
  and_intros <;> rfl

theorem sound_listLines {b : Binding} (hname : Name.isAccepted b.name.toList = true)
    (hmodel : Name.isAccepted b.model.toList = true) {fields : List Field}
    (hfields : ∀ f ∈ fields, Name.isAccepted f.name.toList = true) : Every Sound (listLines b fields) := by
  have hcells : Every Sound (fields.map cell) := every_map.2 fun f hf => sound_cell (hfields f hf)
  have hquestions : Every Sound (fields.flatMap question) := every_flatMap.2 fun f hf => sound_question (hfields f hf)
  unfold listLines returnUnless rowButton function elementById
  simp only [sound_paragraphs, sound_block, sound_orBlank, every_append, every_cons, every_nil, hcells, hquestions,
    List.forall_mem_cons, List.not_mem_nil, false_imp_iff, implies_true, and_true]
  simp only [Sound, Loops, String.toList_append, reading_append, reading_name hname, reading_name hmodel]
  repeat rw [String.toList_ofList]
  and_intros <;> rfl

theorem sound_viewLines {b : Binding} (hname : Name.isAccepted b.name.toList = true)
    (hmodel : Name.isAccepted b.model.toList = true) {fields : List Field}
    (hfields : ∀ f ∈ fields, Name.isAccepted f.name.toList = true) : Every Sound (viewLines b fields) := by
  have hcards : Every Sound (fields.map cardLine) := every_map.2 fun f hf => sound_cardLine (hfields f hf)
  unfold viewLines addLine returnUnless function elementById
  simp only [sound_block, sound_orBlank, every_append, every_cons, every_nil, hcards, and_true]
  simp only [Sound, Loops, String.toList_append, reading_append, reading_name hname, reading_name hmodel]
  repeat rw [String.toList_ofList]
  and_intros <;> rfl

/-! ## Pages -/

/-- a component is put in place by the same code whatever it looks like -/
theorem sameLines_placeComponent {name : String} (hname : Name.isAccepted name.toList = true) (c : Option Component)
    (fragment fragment' : String) : SameLines (placeComponent name c fragment) (placeComponent name c fragment') := by
  have hplace : Sound (elementById (name ++ "-container") ++ ".innerHTML = ") := by
    unfold elementById
    simp only [Sound, Loops, String.toList_append, reading_append, reading_name hname]
    repeat rw [String.toList_ofList]
    rfl
  have hline := (hplace.sameCode.append (sameCode_scriptText fragment fragment')).append
    (sound_ofList rfl : Sound ";").sameCode
  refine .append (.cons hline .nil) (sameLines_of_sound ?_)
  split
  · simpa using ((sound_ofList rfl).append (sound_name hname)).append (sound_ofList rfl)
  · simpa using ((sound_ofList rfl).append (sound_name hname)).append (sound_ofList rfl)
  · exact every_nil

/-- a page is shown by the same code whatever its title -/
theorem sameLines_pageLines {p q : Page} (hname : Name.isAccepted p.name.toList = true) (hpq : p.name = q.name)
    (o o' : Options) {steps steps' : Lines} (hsteps : SameLines steps steps') :
    SameLines (pageLines o p steps) (pageLines o' q steps') := by
  have hcomment : Sound ("// Page: " ++ p.name) := (sound_ofList rfl).append (sound_name hname)
  have hhead : Sound ("function " ++ ("renderPage_" ++ p.name) ++ "(" ++ "" ++ ")") := by
    simp only [Sound, Loops, String.toList_append, reading_append, reading_name hname]
    repeat rw [String.toList_ofList]
    rfl
  have hbody : ∀ s t, SameCode ("document.body.innerHTML = " ++ scriptText s ++ ";")
      ("document.body.innerHTML = " ++ scriptText t ++ ";") := fun s t =>
    ((sound_ofList rfl).sameCode.append (sameCode_scriptText s t)).append (sound_ofList rfl).sameCode
  unfold pageLines
  rw [← hpq]
  exact .append (.cons hcomment.sameCode .nil)
    (.block hhead (.append (.cons (hbody _ _) .nil) hsteps) (sound_ofList rfl))

theorem sound_startScript {a : App} (hpages : ∀ p ∈ a.pages, Name.isAccepted p.name.toList = true)
    (hlists : ∀ b ∈ a.lists, Name.isAccepted b.name.toList = true)
    (hviews : ∀ b ∈ a.views, Name.isAccepted b.name.toList = true) : Sound (startScript a) := by
  unfold startScript
  cases hp : a.landingPage? with
  | some p =>
    have hname := hpages p (List.mem_of_mem_head? hp)
    exact (((sound_ofList rfl).append (sound_ofList rfl)).append (sound_name hname)).append (sound_ofList rfl)
  | none =>
    have hcalls : Every Sound ((a.lists.map (Component.mk .list) ++ a.views.map (Component.mk .view)).map
        fun c => refreshCall c ++ ";") := by
      refine every_map.2 fun c hc => sound_refreshCall ?_
      rcases List.mem_append.1 hc with hc | hc
      · obtain ⟨b, hb, rfl⟩ := List.mem_map.1 hc
        exact hlists b hb
      · obtain ⟨b, hb, rfl⟩ := List.mem_map.1 hc
        exact hviews b hb
    refine stackable_sound.unlines ?_
    simp only [sound_block, hcalls]
    simp only [Sound, Loops, String.toList_append, reading_append]
    repeat rw [String.toList_ofList]
    and_intros <;> trivial

/-! ## Scripts -/

/-- the script of a list depends on the names and kinds of its fields -/
theorem listLines_congr (b : Binding) {fs gs : List Field} (h : fs.map Field.withoutText = gs.map Field.withoutText) :
    listLines b fs = listLines b gs := by
  have hdrop : ∀ l : List Field, listLines b (l.map Field.withoutText) = listLines b l := by
    intro l
    unfold listLines
    rw [List.map_map, List.flatMap_map]
    rfl
  rw [← hdrop fs, h, hdrop gs]

/-- the script of a view depends on the names and kinds of its fields -/
theorem viewLines_congr (b : Binding) {fs gs : List Field} (h : fs.map Field.withoutText = gs.map Field.withoutText) :
    viewLines b fs = viewLines b gs := by
  have hdrop : ∀ l : List Field, viewLines b (l.map Field.withoutText) = viewLines b l := by
    intro l
    unfold viewLines
    rw [List.map_map]
    rfl
  rw [← hdrop fs, h, hdrop gs]

/-- the start depends on the name of the first page -/
theorem startScript_congr {a b : App} (h : a.withoutText = b.withoutText) : startScript a = startScript b := by
  have hdrop : ∀ c : App, startScript c.withoutText = startScript c := by
    intro c
    obtain ⟨models, forms, views, lists, pages⟩ := c
    cases pages with
    | nil => rfl
    | cons p ps => rfl
  rw [← hdrop a, h, hdrop b]

section

variable {a b : App} {o o' : Options} (hnames : ∀ n ∈ a.names, Name.isAccepted n.toList = true)
  (hab : a.withoutText = b.withoutText) (ho : o.withoutText = o'.withoutText)

include hnames

theorem accepted_binding {k : BindingKind} {c : Binding} (hc : c ∈ a.bindings k) :
    Name.isAccepted c.name.toList = true ∧ Name.isAccepted c.model.toList = true := by
  have hname : c.name ∈ c.names := List.mem_cons_self ..
  have hmodel : c.model ∈ c.names := List.mem_cons_of_mem _ (List.mem_cons_self ..)
  exact ⟨hnames _ (App.mem_names_of_binding hc hname), hnames _ (App.mem_names_of_binding hc hmodel)⟩

theorem accepted_displaysOf {model : String} {c : Component} (hc : c ∈ a.displaysOf model) :
    Name.isAccepted c.binding.name.toList = true := by
  obtain ⟨k, hk⟩ := App.exists_mem_bindings_of_mem_displaysOf hc
  exact (accepted_binding hnames hk).1

include hab

theorem agree_modelSections {m n : Model} (hm : m ∈ a.distinctModels) (hmn : m.withoutText = n.withoutText) :
    Agree SameLines (modelSections a m).result (modelSections b n).result := by
  have hmodel : m ∈ a.models := App.mem_models_of_mem_distinctModels hm
  have hnamed : ∀ k ∈ m.names, Name.isAccepted k.toList = true := fun k hk => hnames k (App.mem_names_of_model hmodel hk)
  have hnotice : changeNotice a m = changeNotice b n := by
    unfold changeNotice
    rw [App.displaysOf_eq_of_withoutText hab, (Model.eq_of_withoutText hmn).1]
  have hsound : Sound (changeNotice a m) :=
    sound_changeNotice (hnamed _ (List.mem_cons_self ..)) fun c hc => accepted_displaysOf hnames hc
  have hlines := (sameLines_modelLines hnamed hmn).unlines
  refine Agree.bind (agree_modelScript hmn hlines) fun s t hst => ?_
  show Agree SameLines (.ok [s, changeNotice a m]) (.ok [t, changeNotice b n])
  rw [← hnotice]
  exact .ok (.cons hst (.cons hsound.sameCode .nil))

include ho

/-- the script of a binding, from fields that are the same up to free text and have names of the tree -/
theorem agree_bindingScript {k : BindingKind} {c : Binding} (hc : c ∈ a.bindings k) {lines : List Field → Lines}
    (hcongr : ∀ fs gs, fs.map Field.withoutText = gs.map Field.withoutText → lines fs = lines gs)
    (hsound : ∀ fs, (∀ f ∈ fs, Name.isAccepted f.name.toList = true) → Every Sound (lines fs)) :
    Agree SameCode
      (do let fs ← Generated.resolved (a.lookupFields o ⟨k, c⟩); pure (unlines (lines fs)) : Generated String).result
      (do let fs ← Generated.resolved (b.lookupFields o' ⟨k, c⟩); pure (unlines (lines fs)) : Generated String).result := by
  refine Agree.bind (App.agree_lookupFields hab ho ⟨k, c⟩).with_eq.resolved fun fs gs hfs => ?_
  obtain ⟨hfs, hok, -⟩ := hfs
  have hnamed : ∀ f ∈ fs, Name.isAccepted f.name.toList = true := fun f hf =>
    hnames _ (App.name_mem_of_lookupFields hc hok hf)
  have htext := (stackable_sound.unlines (hsound fs hnamed)).sameCode
  show Agree SameCode (.ok (unlines (lines fs))) (.ok (unlines (lines gs)))
  rw [← hcongr fs gs hfs]
  exact .ok htext

theorem agree_pageScript {p q : Page} (hp : p ∈ a.pages) (hpq : p.withoutText = q.withoutText) :
    Agree SameCode (pageScript a o p).result (pageScript b o' q).result := by
  obtain ⟨hname, hcomponents⟩ := Page.eq_of_withoutText hpq
  have hnamed : ∀ n ∈ p.names, Name.isAccepted n.toList = true := fun n hn => hnames n (App.mem_names_of_page hp hn)
  have hsteps : Agree (List.Forall₂ SameLines)
      (Generated.each (fun name => do
        let r ← a.componentHtml o p name
        pure (placeComponent name r.1 r.2)) p.components).result
      (Generated.each (fun name => do
        let r ← b.componentHtml o' q name
        pure (placeComponent name r.1 r.2)) q.components).result := by
    rw [← hcomponents]
    refine Agree.each_same fun name hmem => ?_
    have hcomponent := App.agree_componentHtml hab ho (R := fun _ _ => True) (fun _ => trivial)
      (fun _ _ _ _ => trivial) p q name
    refine Agree.bind hcomponent fun r s hrs => ?_
    have hplace := sameLines_placeComponent (hnamed name (List.mem_cons_of_mem _ hmem)) r.1 r.2 s.2
    show Agree SameLines (.ok (placeComponent name r.1 r.2)) (.ok (placeComponent name s.1 s.2))
    rw [← hrs.1]
    exact .ok hplace
  refine Agree.bind hsteps fun gs hs hgh => ?_
  have hlines := sameLines_pageLines (hnamed _ (List.mem_cons_self ..)) hname o o' (List.rel_flatten hgh)
  exact .ok (SameLines.unlines hlines)

/-- scripts that differ at most inside literals, or the same error -/
theorem agree_script : Agree SameCode (a.script o).result (b.script o').result := by
  have hbindings := App.bindings_eq_of_withoutText hab
  have hmodels := (List.forall₂_and_left _ _).2
    ⟨fun m (hm : m ∈ a.distinctModels) => hm, forall₂_of_map_eq (App.distinctModels_eq_of_withoutText hab)⟩
  have hpages := (List.forall₂_and_left _ _).2
    ⟨fun p (hp : p ∈ a.pages) => hp, forall₂_of_map_eq (congrArg App.pages hab)⟩
  have hforms : Agree SameLines (Generated.each (formScript a o) a.forms).result
      (Generated.each (formScript b o') a.forms).result := by
    refine Agree.each_same fun c hc => ?_
    obtain ⟨hname, hmodel⟩ := accepted_binding hnames (k := .form) hc
    exact agree_bindingScript hnames hab ho (k := .form) hc (fun _ _ _ => rfl) fun _ _ => sound_formLines hname hmodel
  have hlists : Agree SameLines (Generated.each (listScript a o) a.lists).result
      (Generated.each (listScript b o') a.lists).result := by
    refine Agree.each_same fun c hc => ?_
    obtain ⟨hname, hmodel⟩ := accepted_binding hnames (k := .list) hc
    exact agree_bindingScript hnames hab ho (k := .list) hc (fun _ _ => listLines_congr c) fun _ =>
      sound_listLines hname hmodel
  have hviews : Agree SameLines (Generated.each (viewScript a o) a.views).result
      (Generated.each (viewScript b o') a.views).result := by
    refine Agree.each_same fun c hc => ?_
    obtain ⟨hname, hmodel⟩ := accepted_binding hnames (k := .view) hc
    exact agree_bindingScript hnames hab ho (k := .view) hc (fun _ _ => viewLines_congr c) fun _ =>
      sound_viewLines hname hmodel
  have hstart : SameCode (startScript a) (startScript b) := by
    rw [← startScript_congr hab]
    refine (sound_startScript (fun p hp => ?_) (fun c hc => ?_) fun c hc => ?_).sameCode
    · exact hnames _ (App.mem_names_of_page hp (List.mem_cons_self ..))
    · exact (accepted_binding hnames (k := .list) hc).1
    · exact (accepted_binding hnames (k := .view) hc).1
  unfold App.script
  rw [show b.forms = a.forms from (congrFun hbindings .form).symm,
    show b.lists = a.lists from (congrFun hbindings .list).symm,
    show b.views = a.views from (congrFun hbindings .view).symm]
  refine Agree.bind (Agree.each (fun m n h => agree_modelSections hnames hab h.1 h.2) hmodels) fun ms ms' hms => ?_
  refine Agree.bind hforms fun fs fs' hfs => ?_
  refine Agree.bind hlists fun ls ls' hls => ?_
  refine Agree.bind hviews fun vs vs' hvs => ?_
  refine Agree.bind (Agree.each (fun p q h => agree_pageScript hnames hab ho h.1 h.2) hpages) fun ps ps' hps => ?_
  have hmodelTexts : SameLines ms.flatten ms'.flatten := List.rel_flatten hms
  have hsections := ((((hmodelTexts.append hfs).append hls).append hvs).append hps).append (.cons hstart .nil)
  exact .ok ((hsections.intercalate (sound_ofList rfl)).append (sound_ofList rfl : Sound "\n").sameCode)

end

/-- a script is sound -/
theorem sound_script {a : App} {o : Options} (hnames : ∀ n ∈ a.names, Name.isAccepted n.toList = true) {s : String}
    (h : (a.script o).result = .ok s) : Sound s := by
  have hagree := agree_script hnames (rfl : a.withoutText = a.withoutText) (rfl : o.withoutText = o.withoutText)
  rw [h] at hagree
  cases hagree with
  | ok hsame => exact hsame.left

/-- **Free text leaves the code of a script alone.** Two applications that are equal without titles and texts of defaults,
under options that are equal without the two texts of the page, have the same fault, or scripts that are the same once the
contents of literals are erased, and that both end outside literals. The fault is a reference, unless a model that a name can
lead to has a default of more than 4300 digits. -/
theorem agree_code_script {a b : App} {o o' : Options} (hnames : ∀ n ∈ a.names, Name.isAccepted n.toList = true)
    (hab : a.withoutText = b.withoutText) (ho : o.withoutText = o'.withoutText) :
    Agree (fun s t => code s = code t ∧ EndsInCode s ∧ EndsInCode t) (a.script o).result (b.script o').result ∧
      ((a.script o).result = .error .numeral ↔ ∃ m ∈ a.distinctModels, ∃ f ∈ m.fields, f.IsOverlong) := by
  refine ⟨(agree_script hnames hab ho).mono fun s t h => ?_, App.script_eq_numeral.trans App.isWritable_eq_false⟩
  exact ⟨h.code, h.left.endsInCode, h.right.endsInCode⟩

/-- quotes, a backslash and a closing tag in the title and in the default of a form, against plain text -/
theorem agree_code_guestbook :
    (∀ n ∈ (App.guestbook "\"; x" "\\\"</script>").names, Name.isAccepted n.toList = true) ∧
      (App.guestbook "\"; x" "\\\"</script>").withoutText = (App.guestbook "Guests" "").withoutText ∧
      Agree (fun s t => code s = code t ∧ EndsInCode s ∧ EndsInCode t)
        ((App.guestbook "\"; x" "\\\"</script>").script .standard).result
        ((App.guestbook "Guests" "").script { Options.standard with footerText := "\"" }).result := by
  have hnames : ∀ n ∈ (App.guestbook "\"; x" "\\\"</script>").names, Name.isAccepted n.toList = true := by decide
  have hsame : (App.guestbook "\"; x" "\\\"</script>").withoutText = (App.guestbook "Guests" "").withoutText := rfl
  have hoptions : Options.standard.withoutText = { Options.standard with footerText := "\"" }.withoutText := rfl
  exact ⟨hnames, hsame, (agree_code_script hnames hsame hoptions).1⟩

theorem script_tally {n : Int} (h : Field.IsOverlong ⟨"count", "number", true, some (.int n)⟩) :
    ((App.tally n).script .standard).result = .error .numeral := by
  rw [App.script_eq_numeral, App.isWritable_eq_false]
  exact ⟨_, List.mem_singleton_self _, _, List.mem_singleton_self _, h⟩

/-- a number of 4301 digits as a default is no reference that leads nowhere, and gets no script -/
theorem script_tally_overlong : ((App.tally (10 ^ 4300)).script .standard).result = .error .numeral :=
  script_tally (Field.isOverlong_of_default rfl (le_refl 4300))

end Pagewright.Script
