/-
Handlers never call an undefined function (`used_functions_defined`). Each declaration has its part of the script, and that
part defines its functions (`covers_defines`). A script, the markup it injects and the markup of the document use functions
of declarations only, so all that is used is defined.
-/
import Pagewright.Proofs.Artifact.Handlers

namespace Pagewright.Script

open Text

/-! ## Code of lines -/

theorem EndsInCode.append {s t : String} (hs : EndsInCode s) (ht : EndsInCode t) : EndsInCode (s ++ t) := by
  unfold EndsInCode Mode.after at *
  rw [String.toList_append, List.foldl_append, hs, ht]

/-- a line that can be read outside literals ends outside them -/
theorem Finds.endsInCode {D J : List Char → Prop} {s : String} (h : Finds D J s) : EndsInCode s := by
  obtain ⟨q, hq, hrest, -, -⟩ := h Tracker.start ⟨rfl, rfl⟩
  obtain ⟨q', hq', hmode, -, -⟩ := Tracker.start.reading_eq (s.toList ++ ['\n'])
  cases hq.symm.trans hq'
  have hafter : (Mode.code.after s.toList).next '\n' = .code := by
    have hcode := hmode.symm.trans hrest.1
    rwa [Mode.after, List.foldl_append] at hcode
  unfold EndsInCode
  cases hm : Mode.code.after s.toList with
  | code => rfl
  | literal => simp [hm, Mode.next] at hafter
  | escape => simp [hm, Mode.next] at hafter

/-- the code of a part is a part of the code -/
theorem infix_code_intercalate (sep : String) (hsep : EndsInCode sep) {ls : Lines} (h : Every EndsInCode ls) {l : String}
    (hl : l ∈ ls) : code l <:+: code (sep.intercalate ls) := by
  induction ls with
  | nil => cases hl
  | cons m ls ih =>
    obtain ⟨hm, hls⟩ := every_cons.1 h
    cases ls with
    | nil =>
      rw [List.mem_singleton.1 hl, String.intercalate_singleton]
    | cons k ks =>
      rw [String.intercalate_cons_cons, code_append (hm.append hsep), code_append hm]
      rcases List.mem_cons.1 hl with rfl | hl
      · exact ⟨[], code sep ++ code (sep.intercalate (k :: ks)), by simp⟩
      · exact (ih hls hl).trans (List.suffix_append _ _).isInfix

/-! ## Definitions -/

/-- a script has a definition of a function, outside literals -/
def Defines (s : String) (w : List Char) : Prop := "function ".toList ++ (w ++ ['(']) <:+: code s

/-- among lines there is the head of a function -/
def Declares (ls : Lines) (w : String) : Prop :=
  ∃ parameters : String, '"' ∉ parameters.toList ∧ "function " ++ w ++ "(" ++ parameters ++ ")" ++ " " ++ openBrace ∈ ls

theorem Declares.mono {ls ms : Lines} {w : String} (h : Declares ls w) (hsub : ls ⊆ ms) : Declares ms w := by
  obtain ⟨parameters, hquote, hmem⟩ := h
  exact ⟨parameters, hquote, hsub hmem⟩

theorem declares_function {w parameters : String} (h : '"' ∉ parameters.toList) (body : Lines) :
    Declares (function w parameters body) w :=
  ⟨parameters, h, List.mem_append_left _ (List.mem_cons_self ..)⟩

theorem subset_paragraphs {gs : List Lines} {g : Lines} (hg : g ∈ gs) : g ⊆ paragraphs gs := by
  unfold paragraphs
  induction gs with
  | nil => cases hg
  | cons k gs ih =>
    cases gs with
    | nil =>
      rw [List.mem_singleton.1 hg]
      simp
    | cons k' gs =>
      rw [List.intercalate_cons_cons]
      rcases List.mem_cons.1 hg with rfl | hg
      · exact List.subset_append_of_subset_left _ (List.subset_append_left _ _)
      · exact List.subset_append_of_subset_right _ (ih hg)

theorem declares_paragraphs {gs : List Lines} {g : Lines} (hg : g ∈ gs) {w : String} (h : Declares g w) :
    Declares (paragraphs gs) w :=
  h.mono (subset_paragraphs hg)

/-- a text of lines defines the functions whose heads are among them -/
theorem defines_unlines {ls : Lines} (hends : Every EndsInCode ls) {w : String} (hw : '"' ∉ w.toList) (h : Declares ls w) :
    Defines (unlines ls) w.toList := by
  obtain ⟨parameters, hquote, hmem⟩ := h
  have hline := infix_code_intercalate "\n" rfl hends hmem
  have hself : '"' ∉ ("function " ++ w ++ "(" ++ parameters ++ ")" ++ " " ++ openBrace).toList := by
    simp [hw, hquote, openBrace]
  rw [code_eq_self hself] at hline
  refine List.IsInfix.trans ⟨[], (parameters ++ ")" ++ " " ++ openBrace).toList, ?_⟩ hline
  simp

/-! ### Parts of a script -/

theorem declares_modelLines (m : Model) :
    ∀ p ∈ modelFamilies, p ≠ "refreshLists_" → Declares (modelLines m) (p ++ m.name) := by
  intro p hp hne
  unfold modelLines
  simp only [modelFamilies, List.mem_cons, List.not_mem_nil, or_false] at hp
  rcases hp with rfl | rfl | rfl | rfl | rfl | rfl
  · exact declares_paragraphs (.tail _ (.tail _ (.head _))) (declares_function (by decide) _)
  · exact declares_paragraphs (.tail _ (.tail _ (.tail _ (.head _)))) (declares_function (by decide) _)
  · exact declares_paragraphs (.tail _ (.tail _ (.tail _ (.tail _ (.head _))))) (declares_function (by decide) _)
  · exact declares_paragraphs (.tail _ (.tail _ (.tail _ (.tail _ (.tail _ (.head _)))))) (declares_function (by decide) _)
  · exact declares_paragraphs (.tail _ (.tail _ (.tail _ (.tail _ (.tail _ (.tail _ (.head _)))))))
      (declares_function (by decide) _)
  · exact absurd rfl hne

theorem declares_formLines (b : Binding) : ∀ p ∈ formFamilies, Declares (formLines b) (p ++ b.name) := by
  intro p hp
  unfold formLines
  simp only [formFamilies, List.mem_cons, List.not_mem_nil, or_false] at hp
  rcases hp with rfl | rfl
  · exact declares_paragraphs (.head _) ((declares_function (by decide) _).mono (List.subset_append_right _ _))
  · exact declares_paragraphs (.tail _ (.head _)) (declares_function (by decide) _)

theorem declares_listLines (b : Binding) (fs : List Field) :
    ∀ p ∈ listFamilies, Declares (listLines b fs) (p ++ b.name) := by
  intro p hp
  unfold listLines
  simp only [listFamilies, List.mem_cons, List.not_mem_nil, or_false] at hp
  rcases hp with rfl | rfl | rfl
  · exact declares_paragraphs (.head _) ((declares_function (by decide) _).mono (List.subset_append_right _ _))
  · exact declares_paragraphs (.tail _ (.head _)) (declares_function (by decide) _)
  · exact declares_paragraphs (.tail _ (.tail _ (.head _))) (declares_function (by decide) _)

theorem declares_viewLines (b : Binding) (fs : List Field) :
    ∀ p ∈ viewFamilies, Declares (viewLines b fs) (p ++ b.name) := by
  intro p hp
  rw [List.mem_singleton.1 hp]
  exact (declares_function (by decide) _).mono (List.subset_append_right _ _)

theorem declares_pageLines (o : Options) (q : Page) (steps : Lines) :
    ∀ p ∈ pageFamilies, Declares (pageLines o q steps) (p ++ q.name) := by
  intro p hp
  rw [List.mem_singleton.1 hp]
  exact (declares_function (by decide) _).mono (List.subset_append_right _ _)

/-! ### Scripts -/

section

variable {a : App} {o : Options} (hnames : ∀ n ∈ a.names, Name.isName n.toList = true)

include hnames

omit hnames in
theorem covers_true : Covers a fun _ => True := by constructor <;> exact fun _ _ _ _ => trivial

theorem infix_code_section {ss : List String} (hss : Sections a o ss) {t : String} (ht : t ∈ ss) :
    code t <:+: code ("\n\n".intercalate ss ++ "\n") := by
  have hends : Every EndsInCode ss := fun t ht => (finds_section hnames covers_true (hss.only t ht)).endsInCode
  have hpart := infix_code_intercalate "\n\n" rfl hends ht
  refine hpart.trans ?_
  unfold code
  rw [String.toList_append, codeFrom_append]
  exact (List.prefix_append _ _).isInfix

/-- **Every declaration has its functions defined**, a shadowed model those of the model that shadows it. -/
theorem covers_defines {s : String} (h : (a.script o).result = .ok s) : Covers a (Defines s) := by
  obtain ⟨ss, hss, rfl⟩ := script_eq_ok h
  -- what lines of a section declare, the script defines
  have hlines : ∀ {ls : Lines} {J : List Char → Prop}, unlines ls ∈ ss → Every (Finds (fun _ => True) J) ls →
      ∀ {p n : String}, p ∈ families → n ∈ a.names → Declares ls (p ++ n) →
        Defines ("\n\n".intercalate ss ++ "\n") (p ++ n).toList := by
    intro ls J hmem hfinds p n hp hn hdeclares
    have hquote : '"' ∉ (p ++ n).toList := by
      intro hc
      rw [String.toList_append] at hc
      exact (Tracker.ne_of_isPart (isPart_of_mem_family hp (hnames n hn) _ hc)).1 rfl
    have hdefines := defines_unlines (fun l hl => (hfinds l hl).endsInCode) hquote hdeclares
    exact List.IsInfix.trans hdefines (infix_code_section hnames hss hmem)
  have hmodel : ∀ m ∈ a.distinctModels, ∀ p ∈ modelFamilies,
      Defines ("\n\n".intercalate ss ++ "\n") (p ++ m.name).toList := by
    intro m hm p hp
    obtain ⟨hrecords, hnotice⟩ := hss.models m hm
    have hn := App.mem_names_of_model (App.mem_models_of_mem_distinctModels hm) (List.mem_cons_self ..)
    by_cases hrefresh : p = "refreshLists_"
    · subst hrefresh
      exact hlines (J := fun _ => True) hnotice (finds_notice hnames covers_true hm) (by decide) hn
        (declares_function (by decide) _)
    · exact hlines (J := fun _ => True) hrecords (finds_model hnames covers_true hm) (by simp [families, hp]) hn
        (declares_modelLines m p hp hrefresh)
  refine ⟨fun m hm p hp => ?_, fun b hb p hp => ?_, fun b hb p hp => ?_, fun b hb p hp => ?_, fun q hq p hp => ?_⟩
  · obtain ⟨k, hk, hkm⟩ := App.exists_mem_distinctModels hm
    rw [← hkm]
    exact hmodel k hk p hp
  · obtain ⟨fs, hfs, hmem⟩ := hss.forms b hb
    exact hlines (J := fun _ => True) hmem (finds_form hnames covers_true hb hfs) (by simp [families, hp])
      (App.mem_names_of_binding (k := .form) hb (List.mem_cons_self ..)) (declares_formLines b p hp)
  · obtain ⟨fs, hfs, hmem⟩ := hss.lists b hb
    exact hlines hmem (finds_list hnames covers_true hb hfs) (by simp [families, hp])
      (App.mem_names_of_binding (k := .list) hb (List.mem_cons_self ..)) (declares_listLines b fs p hp)
  · obtain ⟨fs, hfs, hmem⟩ := hss.views b hb
    exact hlines hmem (finds_view hnames covers_true hb hfs) (by simp [families, hp])
      (App.mem_names_of_binding (k := .view) hb (List.mem_cons_self ..)) (declares_viewLines b fs p hp)
  · obtain ⟨steps, hsteps, hmem⟩ := hss.pages q hq
    exact hlines hmem (finds_page hnames covers_true hq hsteps) (by simp [families, hp])
      (App.mem_names_of_page hq (List.mem_cons_self ..)) (declares_pageLines o q _ p hp)

end

end Pagewright.Script

namespace Pagewright

open Text Script

/-! ## Artifacts -/

/-- a function is called or handed over in the script outside literals, or it is called in an attribute of the markup or of
markup that the script injects -/
def Artifacts.Uses (r : Artifacts) (w : List Char) : Prop :=
  Calls (code r.script) w ∨ HandsOver (code r.script) w ∨ Invokes r.markup w ∨
    ∃ html, Injects r.script html ∧ Invokes html w

section

variable {a : App} {o : Options} (hnames : ∀ n ∈ a.names, Name.isName n.toList = true) {D : List Char → Prop}
  (hD : Covers a D)

/-- code that calls functions with a property only -/
def CallsOnly (D : List Char → Prop) (x : List Char) : Prop :=
  ∀ w, isFamily w = true → (∀ c ∈ w, Name.isPart c = true) → Calls x w → D w

theorem callsOnly_of_finds {J : List Char → Prop} {s : String} (hquote : '"' ∉ s.toList) (h : Finds D J s) :
    CallsOnly D s.toList := by
  intro w hfamily hparts hcall
  rw [← code_eq_self hquote] at hcall
  exact h.of_calls hfamily hparts hcall

include hnames hD

/-- the handlers of a form call its own functions -/
theorem runs_handlers : ∀ b ∈ a.forms,
    Runs (CallsOnly D) (Html.attr "onsubmit" ("return handleSubmit_" ++ b.name ++ "(event)")).text ∧
      Runs (CallsOnly D) (Html.attr "onclick" ("resetForm_" ++ b.name ++ "()")).text := by
  intro b hb
  have hname := (isName_binding hnames (k := .form) hb).1
  have hplain : '"' ∉ b.name.toList := fun hc => (Tracker.ne_of_isPart (Name.isPart_of_isName hname hc)).1 rfl
  have hsubmitQuote : '"' ∉ ("return handleSubmit_" ++ b.name ++ "(event)").toList := by simp [hplain]
  have hresetQuote : '"' ∉ ("resetForm_" ++ b.name ++ "()").toList := by simp [hplain]
  have huses : Notes ("return handleSubmit_" ++ b.name ++ "(event)") [("handleSubmit_" ++ b.name).toList] [] ∧
      Notes ("resetForm_" ++ b.name ++ "()") [("resetForm_" ++ b.name).toList] [] := by
    simp only [Notes, String.toList_append, reading_append, Tracker.reading_name hname]
    repeat rw [String.toList_ofList]
    and_intros <;> exact fun _ _ _ _ _ _ => ⟨_, _, _, _, rfl⟩
  have hsubmit : Finds D (fun _ => True) _ := huses.1.finds_use (hD.forms b hb _ (by decide))
  have hreset : Finds D (fun _ => True) _ := huses.2.finds_use (hD.forms b hb _ (by decide))
  exact ⟨runs_attr (by decide) hsubmitQuote (Or.inr (callsOnly_of_finds hsubmitQuote hsubmit)),
    runs_attr (by decide) hresetQuote (Or.inr (callsOnly_of_finds hresetQuote hreset))⟩

theorem runs_markup {s : String} (h : (a.markup o).result = .ok s) : Runs (CallsOnly D) s :=
  compositional_runs.markup (fun n hn => Name.isAccepted_of_isName _ (hnames n hn)) (runs_handlers hnames hD) h

/-- so does markup that a script puts in place -/
theorem runs_placed {html : String} (h : Placed a o html) : Runs (CallsOnly D) html := by
  have haccepted : ∀ n ∈ a.names, Name.isAccepted n.toList = true := fun n hn => Name.isAccepted_of_isName _ (hnames n hn)
  cases h with
  | nothing => exact runs_of_no_quote (by decide)
  | frame hp =>
    refine compositional_runs.shell (compositional_runs.containers (fun n hn => ?_) (List.forall_mem_nil _)) _ _
    exact haccepted n (App.mem_names_of_page hp (List.mem_cons_of_mem _ hn))
  | component hp hname h => exact compositional_runs.componentHtml haccepted (runs_handlers hnames hD) hp hname h

omit hnames hD in
/-- what markup invokes has the property that its handlers have -/
theorem Runs.of_invokes {html : String} (h : Runs (CallsOnly D) html) {w : List Char} (hfamily : isFamily w = true)
    (hparts : ∀ c ∈ w, Name.isPart c = true) (hw : Invokes html w) : D w := by
  obtain ⟨x, hx, hcall⟩ := hw
  obtain ⟨before, found, hread, hfound⟩ := h [] []
  have hmem := Collector.mem_found_of_hasHandler hread hx
  rcases hfound x hmem with hmem | hcalls
  · cases hmem
  · exact hcalls w hfamily hparts hcall

end

/-- **Handlers never call an undefined function.** When all names of an application are identifiers and it compiles, every
generated function that its artifacts use, in the script or in an attribute of markup, has a definition in the script. -/
theorem used_functions_defined {a : App} {o : Options} (hnames : ∀ n ∈ a.names, Name.isName n.toList = true)
    {r : Artifacts} (h : (compileApp o a).1 = .ok r) {p n : String} (hp : p ∈ families) (hn : Name.isName n.toList = true)
    (huse : r.Uses (p ++ n).toList) : Defines r.script (p ++ n).toList := by
  obtain ⟨hmarkup, hscript, -⟩ := compileApp_eq_ok h
  have hD := covers_defines hnames hscript
  have hfamily : isFamily (p ++ n).toList = true := String.toList_append ▸ isFamily_append hp n.toList
  have hparts : ∀ c ∈ (p ++ n).toList, Name.isPart c = true := String.toList_append ▸ isPart_of_mem_family hp hn
  have hfinds := finds_script hnames hD hscript
  rcases huse with hcall | hhands | hinvokes | ⟨html, hinjects, hinvokes⟩
  · exact hfinds.of_calls hfamily hparts hcall
  · exact hfinds.of_handsOver hfamily hparts hhands
  · exact (runs_markup hnames hD hmarkup).of_invokes hfamily hparts hinvokes
  · obtain ⟨x, ⟨placed, hplaced, rfl⟩, hhtml⟩ := hfinds.of_injects hinjects
    rw [eq_of_standsFor hhtml] at hinvokes
    exact (runs_placed hnames hD hplaced).of_invokes hfamily hparts hinvokes

/-- the function of the first page is handed over at the start; the title of that page looks like a handler -/
theorem used_functions_defined_guestbook :
    (∀ n ∈ (App.guestbook "\" onclick=\"get_Sign()" "").names, Name.isName n.toList = true) ∧
      ∃ r, (compileApp .standard (App.guestbook "\" onclick=\"get_Sign()" "")).1 = .ok r ∧
        r.Uses ("renderPage_" ++ "Main").toList ∧ Defines r.script ("renderPage_" ++ "Main").toList := by
  have hnames : ∀ n ∈ (App.guestbook "\" onclick=\"get_Sign()" "").names, Name.isName n.toList = true := by decide
  obtain ⟨r, hr⟩ := exists_compileApp_guestbook "\" onclick=\"get_Sign()" ""
  obtain ⟨ss, hss, hscript⟩ := script_eq_ok (compileApp_eq_ok hr).2.1
  have hstart : code (startScript (App.guestbook "\" onclick=\"get_Sign()" "")) =
      "document.addEventListener(\"\"".toList ++
        ',' :: ([' '] ++ (("renderPage_" ++ "Main").toList ++ ([] ++ ')' :: [';']))) := by
    show code ("document.addEventListener(\"DOMContentLoaded\", " ++ "renderPage_" ++ "Main" ++ ");") = _
    unfold code
    simp only [String.toList_append]
    repeat rw [String.toList_ofList]
    rfl
  have hhands : HandsOver (code (startScript (App.guestbook "\" onclick=\"get_Sign()" "")))
      ("renderPage_" ++ "Main").toList :=
    ⟨_, ',', [' '], [], ')', [';'], hstart, by decide, by decide, List.forall_mem_singleton.2 rfl, List.forall_mem_nil _⟩
  have huse : r.Uses ("renderPage_" ++ "Main").toList := by
    refine Or.inr (Or.inl ?_)
    rw [hscript]
    exact hhands.of_infix (infix_code_section hnames hss hss.start)
  exact ⟨hnames, r, hr, huse, used_functions_defined hnames hr (by decide) (by decide) huse⟩

end Pagewright
