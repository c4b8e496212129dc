/-
What a script declares. A constant or a function that a line outside all braces begins is one of the script as a whole
(`declarations`). The sections of a script close the braces that they open, so a script declares what its sections declare,
in their order: two constants for a model, and the functions of every declaration (`declarations_script`).
-/
import Pagewright.Proofs.Artifact.InForce
import Pagewright.Proofs.Artifact.Nesting

namespace Pagewright.Script

open Text

/-! ## Declarations -/

/-- a constant or a function, by its name -/
inductive Declaration where
  | constant (name : String)
  | function (name : String)
  deriving DecidableEq, Repr

namespace Declaration

/-- the word after a keyword, if a line begins with that keyword -/
def wordAfter? (keyword l : String) : Option String :=
  if keyword.toList.isPrefixOf l.toList then
    some (String.ofList ((l.toList.drop keyword.toList.length).takeWhile Name.isPart))
  else none

def ofLine? (l : String) : Option Declaration :=
  (wordAfter? "const " l).map constant <|> (wordAfter? "function " l).map function

def constant? : Declaration → Option String
  | constant n => some n
  | function _ => none

def function? : Declaration → Option String
  | constant _ => none
  | function n => some n

theorem wordAfter?_append (keyword : String) {w t : List Char} (hw : ∀ c ∈ w, Name.isPart c = true)
    (ht : t.takeWhile Name.isPart = []) {l : String} (hl : l.toList = keyword.toList ++ (w ++ t)) :
    wordAfter? keyword l = some (String.ofList w) := by
  have hprefix : keyword.toList.isPrefixOf l.toList = true := by
    rw [hl, List.isPrefixOf_iff_prefix]
    exact List.prefix_append _ _
  rw [wordAfter?, if_pos hprefix, hl, List.drop_left, List.takeWhile_append_of_pos hw, ht, List.append_nil]

theorem ofLine?_constant {w : String} {t : List Char} (hw : ∀ c ∈ w.toList, Name.isPart c = true)
    (ht : t.takeWhile Name.isPart = []) {l : String} (hl : l.toList = "const ".toList ++ (w.toList ++ t)) :
    ofLine? l = some (constant w) := by
  simp [ofLine?, wordAfter?_append "const " hw ht hl]

theorem ofLine?_function {w : String} {t : List Char} (hw : ∀ c ∈ w.toList, Name.isPart c = true)
    (ht : t.takeWhile Name.isPart = []) {l : String} (hl : l.toList = "function ".toList ++ (w.toList ++ t)) :
    ofLine? l = some (function w) := by
  have hconst : wordAfter? "const " l = none := by
    rw [wordAfter?, hl]
    rfl
  simp [ofLine?, hconst, wordAfter?_append "function " hw ht hl]

/-- a line that begins like no keyword declares nothing -/
theorem ofLine?_eq_none {s : String} (hs : (s.toList.head?.any fun c => c ≠ 'c' && c ≠ 'f') = true) (t : String) :
    ofLine? (s ++ t) = none := by
  have hconst : "const ".toList = 'c' :: "onst ".toList := by decide
  have hfunction : "function ".toList = 'f' :: "unction ".toList := by decide
  cases hchars : s.toList with
  | nil => simp [hchars] at hs
  | cons c r =>
    have hc : c ≠ 'c' ∧ c ≠ 'f' := by simpa [hchars] using hs
    simp [ofLine?, wordAfter?, hconst, hfunction, hchars, List.isPrefixOf, Ne.symm hc.1, Ne.symm hc.2]

end Declaration

/-- what a script declares outside all braces, in its order -/
def declarations (s : String) : List Declaration := (outerLines 0 (splitLines s)).filterMap Declaration.ofLine?

/-! ## Declarations of lines -/

/-- lines that close what they open, with what they declare -/
def Introduces (ls : Lines) (ds : List Declaration) : Prop :=
  ∃ outer, Outlined ls outer ∧ outer.filterMap Declaration.ofLine? = ds

namespace Introduces

theorem append {ls ms : Lines} {ds es : List Declaration} : Introduces ls ds → Introduces ms es →
    Introduces (ls ++ ms) (ds ++ es)
  | ⟨_, h, hds⟩, ⟨_, h', hes⟩ => ⟨_, h.append h', by rw [List.filterMap_append, hds, hes]⟩

/-- a line that declares nothing -/
theorem plain {l : String} (h : Level l) (hnone : Declaration.ofLine? l = none) : Introduces [l] [] :=
  ⟨_, .line h, List.filterMap_cons_none hnone⟩

theorem blank : Introduces [""] [] := plain level_empty rfl

/-- lines under a comment -/
theorem commented {kind n : String} (hkind : Level kind) (hcomment : kind.toList.head? = some '/')
    (hn : Name.isName n.toList = true) {ls : Lines} {ds : List Declaration} (h : Introduces ls ds) :
    Introduces ([kind ++ n] ++ ls) ds := by
  have hnone : Declaration.ofLine? (kind ++ n) = none := Declaration.ofLine?_eq_none (by simp [hcomment]) n
  exact (plain (hkind.append (level_name hn)) hnone).append h

/-- a function of a declaration -/
theorem function {f n parameters : String} {body : Lines} (hf : f ∈ families) (hn : Name.isName n.toList = true)
    (hparameters : Level parameters) (hbody : Closed body) :
    Introduces (function (f ++ n) parameters body) [.function (f ++ n)] := by
  have hword : ∀ c ∈ (f ++ n).toList, Name.isPart c = true := String.toList_append ▸ isPart_of_mem_family hf hn
  have hhead : Level ("function " ++ (f ++ n) ++ "(" ++ parameters ++ ")") :=
    ((((level_ofList rfl).append (level_word hword)).append (level_ofList rfl)).append hparameters).append (level_ofList rfl)
  have hline : ("function " ++ (f ++ n) ++ "(" ++ parameters ++ ")" ++ " " ++ openBrace).toList =
      "function ".toList ++ ((f ++ n).toList ++ '(' :: (parameters ++ ")" ++ " " ++ openBrace).toList) := by
    simp only [String.toList_append, List.append_assoc]
    rfl
  obtain ⟨inner, hbody⟩ := hbody
  refine ⟨_, .block hhead hbody level_empty, ?_⟩
  rw [List.filterMap_cons_some (Declaration.ofLine?_function hword rfl hline), List.filterMap_nil]

/-- a text of lines has these lines again, so it declares the same -/
theorem unlines {ls : Lines} {ds : List Declaration} (h : Introduces ls ds) : Introduces (splitLines (unlines ls)) ds := by
  cases ls with
  | nil =>
    obtain ⟨outer, h, rfl⟩ := h
    have hnone : outer = [] := (h.outer 0).symm
    subst hnone
    exact blank
  | cons l ls =>
    obtain ⟨outer, hlines, hds⟩ := h
    have hone : ∀ l' ∈ l :: ls, splitLines l' = [l'] := by
      intro l' hl'
      rw [splitLines, List.splitOn_eq_singleton (hlines.flat l' hl'), List.map_singleton, String.ofList_toList]
    rw [splitLines_unlines (List.cons_ne_nil _ _), List.flatMap_congr hone, List.flatMap_singleton']
    exact ⟨outer, hlines, hds⟩

/-- groups of lines declare what each of them declares -/
theorem paragraphs {gs : List Lines} {dss : List (List Declaration)} (h : List.Forall₂ Introduces gs dss) :
    Introduces (paragraphs gs) dss.flatten := by
  unfold Script.paragraphs
  induction h with
  | nil => exact ⟨_, .nil, rfl⟩
  | @cons g ds gs dss hg hgs ih =>
    cases hgs with
    | nil => simpa using hg
    | cons hk hks =>
      rw [List.intercalate_cons_cons, List.flatten_cons]
      simpa using (hg.append blank).append ih

end Introduces

/-! ## Sections of declarations -/

section

variable {b : Binding} (hname : Name.isName b.name.toList = true) (hmodel : Name.isName b.model.toList = true)

include hname hmodel

theorem introduces_formLines : Introduces (formLines b) (formFamilies.map fun f => .function (f ++ b.name)) := by
  show Introduces _ (List.flatten [[.function ("handleSubmit_" ++ b.name)], [.function ("resetForm_" ++ b.name)]])
  unfold formLines readElement switchCase elementById
  refine .paragraphs (.cons (.commented ?_ (by decide) hname (.function (by decide) hname ?_ ?_))
    (.cons (.function (by decide) hname ?_ ?_) .nil))
  -- a block is opened as a block, before it unfolds to lines that are put together and are not level one by one
  all_goals repeat' with_reducible first | apply Closed.append | apply Closed.block | apply Closed.indent | apply Closed.lines
  all_goals simp only [every_cons, every_nil, and_true, Level, Loops, String.toList_append, reading_append,
    Nest.reading_name hname, Nest.reading_name hmodel]
  all_goals repeat rw [String.toList_ofList]
  all_goals and_intros <;> rfl

end

section

variable {f : Field} (hname : Name.isName f.name.toList = true)

include hname

theorem level_shownValue : Level (shownValue f) := by
  unfold shownValue
  split <;> exact ((level_ofList rfl).append (level_name hname)).append (level_ofList rfl)

theorem closed_question : Closed (question f) := by
  have hanswer : Level (answerValue f) := by
    unfold answerValue
    split <;> exact level_ofList rfl
  have hset : Level ("newData." ++ f.name ++ " = " ++ answerValue f ++ ";") :=
    ((((level_ofList rfl).append (level_name hname)).append (level_ofList rfl)).append hanswer).append (level_ofList rfl)
  unfold question
  refine .block ?_ (.append (.lines ?_) (.block ?_ (.lines (every_cons.2 ⟨hset, every_nil⟩)) ?_)) ?_
  all_goals simp only [every_cons, every_nil, and_true, Level, Loops, String.toList_append, reading_append,
    Nest.reading_name hname]
  all_goals repeat rw [String.toList_ofList]
  all_goals rfl

end

section

variable {b : Binding} (hname : Name.isName b.name.toList = true) (hmodel : Name.isName b.model.toList = true)
  {fields : List Field} (hfields : ∀ f ∈ fields, Name.isName f.name.toList = true)

include hname hmodel hfields

theorem introduces_listLines : Introduces (listLines b fields) (listFamilies.map fun f => .function (f ++ b.name)) := by
  have hcells : Closed (orBlank (fields.map cell)) := by
    refine .orBlank (.lines (every_map.2 fun f hf => ?_))
    exact ((level_ofList rfl).append (level_shownValue (hfields f hf))).append (level_ofList rfl)
  have hquestions : Closed (orBlank (fields.flatMap question)) :=
    .orBlank (.flatten (List.forall_mem_map.2 fun f hf => closed_question (hfields f hf)))
  show Introduces _ (List.flatten [[.function ("refreshList_" ++ b.name)], [.function ("editItem_" ++ b.name)],
    [.function ("deleteItem_" ++ b.name)]])
  unfold listLines returnUnless rowButton elementById
  refine .paragraphs (.cons (.commented ?_ (by decide) hname (.function (by decide) hname ?_ ?_))
    (.cons (.function (by decide) hname ?_ ?_) (.cons (.function (by decide) hname ?_ ?_) .nil)))
  all_goals repeat' with_reducible first | exact hcells | exact hquestions | apply Closed.append | apply Closed.block |
    apply Closed.lines
  all_goals simp only [every_cons, every_nil, and_true, Level, Loops, String.toList_append, reading_append,
    Nest.reading_name hname, Nest.reading_name hmodel]
  all_goals repeat rw [String.toList_ofList]
  all_goals and_intros <;> rfl

theorem introduces_viewLines : Introduces (viewLines b fields) (viewFamilies.map fun f => .function (f ++ b.name)) := by
  have hcards : Closed (orBlank (fields.map cardLine)) := by
    refine .orBlank (.lines (every_map.2 fun f hf => ?_))
    exact ((((level_ofList rfl).append (level_scriptText _)).append (level_ofList rfl)).append
      (level_shownValue (hfields f hf))).append (level_ofList rfl)
  unfold viewLines addLine returnUnless elementById
  refine .commented ?_ (by decide) hname (.function (by decide) hname ?_ ?_)
  all_goals repeat' with_reducible first | exact hcards | apply Closed.append | apply Closed.block | apply Closed.lines
  all_goals simp only [every_cons, every_nil, and_true, Level, Loops, String.toList_append, reading_append,
    Nest.reading_name hname, Nest.reading_name hmodel]
  all_goals repeat rw [String.toList_ofList]
  all_goals and_intros <;> rfl

end

/-- the constants of a model, by what their names end in -/
def constantSuffixes : List String := ["Model", "Data"]

theorem isPart_of_mem_constant {n x : String} (hn : Name.isName n.toList = true) (hx : x ∈ constantSuffixes) :
    ∀ c ∈ (n ++ x).toList, Name.isPart c = true := by
  have hall : ∀ x ∈ constantSuffixes, x.toList.all Name.isPart = true := by decide
  rw [String.toList_append]
  exact List.forall_mem_append.2 ⟨fun c => Name.isPart_of_isName hn, List.all_eq_true.1 (hall x hx)⟩

theorem level_refreshCall {c : Component} (hname : Name.isName c.binding.name.toList = true) : Level (refreshCall c ++ ";") := by
  have hcall : Level (refreshCall c) := by
    unfold refreshCall
    split <;> exact ((level_ofList rfl).append (level_name hname)).append (level_ofList rfl)
  exact hcall.append (level_ofList rfl)

section

variable {m : Model} (hname : Name.isName m.name.toList = true)

include hname

theorem introduces_modelConstant (hfields : ∀ f ∈ m.fields, Name.isName f.name.toList = true) :
    Introduces (modelConstant m) [.constant (m.name ++ "Model")] := by
  have hentry : ∀ f ∈ m.fields, Level (fieldEntry f) := by
    intro f hf
    have hrequired : Level (scriptLiteral (.bool f.required)) := level_scriptLiteral (some (.bool f.required))
    have hinner := (((((level_ofList (l := "type: ".toList) rfl).append (level_scriptText f.type)).append
      (level_ofList (l := ", required: ".toList) rfl)).append hrequired).append
      (level_ofList (l := ", defaultValue: ".toList) rfl)).append (level_scriptLiteral f.default)
    exact ((level_name (hfields f hf)).append (level_ofList rfl)).append hinner.inBraces
  have hentries : Closed (orBlank (commaSeparated (m.fields.map fieldEntry))) :=
    .orBlank (.lines (every_commaSeparated (List.forall_mem_map.2 fun f hf =>
      ⟨hentry f hf, (hentry f hf).append (level_ofList rfl)⟩)))
  have hbody : Closed (["name: " ++ scriptText m.name ++ ","] ++
      block "fields:" (orBlank (commaSeparated (m.fields.map fieldEntry))) "") := by
    refine .append (.lines (every_cons.2 ⟨?_, every_nil⟩)) (.block (level_ofList rfl) hentries level_empty)
    exact ((level_ofList rfl).append (level_scriptText _)).append (level_ofList rfl)
  have hhead : Level ("const " ++ m.name ++ "Model =") :=
    ((level_ofList rfl).append (level_name hname)).append (level_ofList rfl)
  have hline : ("const " ++ m.name ++ "Model =" ++ " " ++ openBrace).toList =
      "const ".toList ++ ((m.name ++ "Model").toList ++ (" =" ++ " " ++ openBrace).toList) := by
    simp only [String.toList_append, List.append_assoc]
    rfl
  obtain ⟨inner, hbody⟩ := hbody
  refine ⟨_, .block hhead hbody (level_ofList rfl), ?_⟩
  rw [List.filterMap_cons_some (Declaration.ofLine?_constant (isPart_of_mem_constant hname (by decide)) rfl hline),
    List.filterMap_nil]

theorem introduces_records : Introduces ["const " ++ (m.name ++ "Data") ++ " = [];"] [.constant (m.name ++ "Data")] := by
  have hword := isPart_of_mem_constant hname (x := "Data") (by decide)
  have hlevel : Level ("const " ++ (m.name ++ "Data") ++ " = [];") :=
    ((level_ofList rfl).append (level_word hword)).append (level_ofList rfl)
  have hline : ("const " ++ (m.name ++ "Data") ++ " = [];").toList =
      "const ".toList ++ ((m.name ++ "Data").toList ++ " = [];".toList) := by
    simp only [String.toList_append, List.append_assoc]
  refine ⟨_, .line hlevel, ?_⟩
  rw [List.filterMap_cons_some (Declaration.ofLine?_constant hword rfl hline), List.filterMap_nil]

theorem introduces_modelLines (hfields : ∀ f ∈ m.fields, Name.isName f.name.toList = true) :
    Introduces (modelLines m) ((constantSuffixes.map fun x => .constant (m.name ++ x)) ++
      ["getAll_", "get_", "create_", "update_", "delete_"].map fun f => .function (f ++ m.name)) := by
  show Introduces _ (List.flatten [[.constant (m.name ++ "Model")], [.constant (m.name ++ "Data")],
    [.function ("getAll_" ++ m.name)], [.function ("get_" ++ m.name)], [.function ("create_" ++ m.name)],
    [.function ("update_" ++ m.name)], [.function ("delete_" ++ m.name)]])
  unfold modelLines findIndex inBraces
  refine .paragraphs (.cons (.commented ?_ (by decide) hname (introduces_modelConstant hname hfields))
    (.cons (introduces_records hname) (.cons (.function (by decide) hname ?_ ?_) (.cons (.function (by decide) hname ?_ ?_)
      (.cons (.function (by decide) hname ?_ ?_) (.cons (.function (by decide) hname ?_ ?_)
        (.cons (.function (by decide) hname ?_ ?_) .nil)))))))
  all_goals repeat' with_reducible first | apply Closed.append | apply Closed.block | apply Closed.lines
  all_goals simp only [every_cons, every_nil, and_true, Level, Loops, String.toList_append, reading_append,
    Nest.reading_name hname]
  all_goals repeat rw [String.toList_ofList]
  all_goals and_intros <;> rfl

theorem introduces_changeNotice {a : App} (hdisplays : ∀ c ∈ a.displaysOf m.name, Name.isName c.binding.name.toList = true) :
    Introduces (splitLines (changeNotice a m)) [.function ("refreshLists_" ++ m.name)] := by
  have hcalls : Closed ((a.displaysOf m.name).map fun c => refreshCall c ++ ";") :=
    .lines (every_map.2 fun c hc => level_refreshCall (hdisplays c hc))
  exact .unlines (.function (by decide) hname level_empty hcalls)

end

theorem closed_placeComponent {name : String} (hname : Name.isName name.toList = true) (c : Option Component)
    (fragment : String) : Closed (placeComponent name c fragment) := by
  have hword := level_name hname
  have hplace : Level (elementById (name ++ "-container") ++ ".innerHTML = ") := by
    unfold elementById
    simp only [Level, Loops, String.toList_append, reading_append, Nest.reading_name hname]
    repeat rw [String.toList_ofList]
    rfl
  have hline := (hplace.append (level_scriptText fragment)).append (level_ofList (l := ";".toList) rfl)
  refine .append (.lines (every_cons.2 ⟨hline, every_nil⟩)) (.lines ?_)
  split
  · exact every_cons.2 ⟨((level_ofList rfl).append hword).append (level_ofList rfl), every_nil⟩
  · exact every_cons.2 ⟨((level_ofList rfl).append hword).append (level_ofList rfl), every_nil⟩
  · exact every_nil

theorem introduces_pageLines {p : Page} (hname : Name.isName p.name.toList = true) (o : Options) {steps : Lines}
    (hsteps : Closed steps) : Introduces (pageLines o p steps) (pageFamilies.map fun f => .function (f ++ p.name)) := by
  have hbody : ∀ t, Level ("document.body.innerHTML = " ++ scriptText t ++ ";") := fun t =>
    ((level_ofList rfl).append (level_scriptText t)).append (level_ofList rfl)
  exact .commented (level_ofList rfl) (by decide) hname (.function (by decide) hname level_empty
    (.append (.lines (every_cons.2 ⟨hbody _, every_nil⟩)) hsteps))

theorem introduces_startScript {a : App} (hpages : ∀ p ∈ a.pages, Name.isName p.name.toList = true)
    (hlists : ∀ b ∈ a.lists, Name.isName b.name.toList = true) (hviews : ∀ b ∈ a.views, Name.isName b.name.toList = true) :
    Introduces (splitLines (startScript a)) [] := by
  unfold startScript
  cases hp : a.landingPage? with
  | some p =>
    have hword := level_name (hpages p (List.mem_of_mem_head? hp))
    have hline : Level ("document.addEventListener(\"DOMContentLoaded\", " ++ "renderPage_" ++ p.name ++ ");") :=
      (((level_ofList rfl).append (level_ofList rfl)).append hword).append (level_ofList rfl)
    have hnone : Declaration.ofLine? ("document.addEventListener(\"DOMContentLoaded\", " ++ "renderPage_" ++ p.name ++
        ");") = none := by
      simp only [String.append_assoc]
      exact Declaration.ofLine?_eq_none (by decide) _
    have hstart := (Introduces.plain hline hnone).unlines
    rwa [unlines, String.intercalate_singleton] at hstart
  | none =>
    have hcalls : Closed ((a.lists.map (Component.mk .list) ++ a.views.map (Component.mk .view)).map
        fun c => refreshCall c ++ ";") := by
      refine .lines (every_map.2 (List.forall_mem_append.2 ⟨List.forall_mem_map.2 ?_, List.forall_mem_map.2 ?_⟩))
      · exact fun b hb => level_refreshCall (hlists b hb)
      · exact fun b hb => level_refreshCall (hviews b hb)
    obtain ⟨inner, hcalls⟩ := hcalls
    have hhead : Level ("document.addEventListener(\"DOMContentLoaded\", " ++ "() =>") :=
      (level_ofList rfl).append (level_ofList rfl)
    exact .unlines ⟨_, .block hhead hcalls (level_ofList rfl), by decide⟩

/-! ## Scripts -/

theorem Introduces.declarations_eq {t : String} {ds : List Declaration} (h : Introduces (splitLines t) ds) :
    declarations t = ds := by
  obtain ⟨outer, hlines, hds⟩ := h
  rw [declarations, hlines.outer, if_pos rfl, hds]

/-- a script declares what its sections declare -/
theorem declarations_sections {ss : List String} (h : ∀ t ∈ ss, ∃ ds, Introduces (splitLines t) ds) :
    declarations ("\n\n".intercalate ss ++ "\n") = ss.flatMap declarations := by
  have hlines : Introduces (ss.flatMap fun s => splitLines s ++ [""]) (ss.flatMap declarations) := by
    induction ss with
    | nil => exact ⟨_, .nil, rfl⟩
    | cons t ss ih =>
      obtain ⟨⟨ds, ht⟩, hss⟩ := List.forall_mem_cons.1 h
      have hsection := ht.append .blank
      rw [List.append_nil] at hsection
      rw [List.flatMap_cons, List.flatMap_cons, ht.declarations_eq]
      exact hsection.append (ih hss)
  cases ss with
  | nil => rfl
  | cons t ss =>
    rw [← splitLines_sections (List.cons_ne_nil _ _)] at hlines
    exact hlines.declarations_eq

/-- lists of which one is made from the other item by item -/
theorem flatMap_eq_of_forall₂ {α β γ : Type} {R : α → β → Prop} {l : List α} {m : List β} (h : List.Forall₂ R l m)
    {f : α → List γ} {g : β → List γ} (hfg : ∀ x ∈ l, ∀ y, R x y → g y = f x) : m.flatMap g = l.flatMap f := by
  induction h with
  | nil => rfl
  | cons hxy _ ih =>
    obtain ⟨hx, hl⟩ := List.forall_mem_cons.1 hfg
    rw [List.flatMap_cons, List.flatMap_cons, hx _ hxy, ih hl]

/-- what the script of an application declares -/
def outline (a : App) : List Declaration :=
  let handlers (k : BindingKind) : List Declaration :=
    (a.bindings k).flatMap fun b => (handlerFamilies k).map fun f => .function (f ++ b.name)
  (a.distinctModels.flatMap fun m => (constantSuffixes.map fun x => .constant (m.name ++ x)) ++
      modelFamilies.map fun f => .function (f ++ m.name)) ++
    handlers .form ++ handlers .list ++ handlers .view ++
    a.pages.flatMap fun p => pageFamilies.map fun f => .function (f ++ p.name)

section

variable {a : App} {o : Options} (hnames : ∀ n ∈ a.names, Name.isName n.toList = true)

include hnames

theorem introduces_models {m : Model} (hm : m ∈ a.distinctModels) :
    Introduces (splitLines (unlines (modelLines m))) ((constantSuffixes.map fun x => .constant (m.name ++ x)) ++
        ["getAll_", "get_", "create_", "update_", "delete_"].map fun f => .function (f ++ m.name)) ∧
      Introduces (splitLines (changeNotice a m)) [.function ("refreshLists_" ++ m.name)] := by
  have hmodel : ∀ n ∈ m.names, Name.isName n.toList = true := fun n hn =>
    hnames n (App.mem_names_of_model (App.mem_models_of_mem_distinctModels hm) hn)
  have hname := hmodel _ (List.mem_cons_self ..)
  refine ⟨.unlines (introduces_modelLines hname fun f hf => hmodel _ ?_), introduces_changeNotice hname fun c hc => ?_⟩
  · exact List.mem_cons_of_mem _ (List.mem_flatMap.2 ⟨f, hf, List.mem_cons_self ..⟩)
  · obtain ⟨k, hk⟩ := App.exists_mem_bindings_of_mem_displaysOf hc
    exact hnames _ (App.mem_names_of_binding hk (List.mem_cons_self ..))

theorem introduces_section {k : BindingKind} {b : Binding} (hb : b ∈ a.bindings k) {t : String}
    (h : SectionOf a o ⟨k, b⟩ t) :
    Introduces (splitLines t) ((handlerFamilies k).map fun f => .function (f ++ b.name)) := by
  obtain ⟨fs, hfs, rfl⟩ := h
  have hname := hnames _ (App.mem_names_of_binding hb (List.mem_cons_self ..))
  have hmodel := hnames _ (App.mem_names_of_binding hb (List.mem_cons_of_mem _ (List.mem_cons_self ..)))
  have hfields : ∀ f ∈ fs, Name.isName f.name.toList = true := fun f hf =>
    hnames _ (App.name_mem_of_lookupFields hb hfs hf)
  cases k with
  | form => exact .unlines (introduces_formLines hname hmodel)
  | list => exact .unlines (introduces_listLines hname hmodel hfields)
  | view => exact .unlines (introduces_viewLines hname hmodel hfields)

theorem introduces_page {p : Page} (hp : p ∈ a.pages) {steps : List Lines} (h : Places a o p steps) :
    Introduces (splitLines (unlines (pageLines o p steps.flatten))) (pageFamilies.map fun f => .function (f ++ p.name)) := by
  have hnamed : ∀ n ∈ p.names, Name.isName n.toList = true := fun n hn => hnames n (App.mem_names_of_page hp hn)
  have hsteps : Closed steps.flatten := by
    refine .flatten fun ls hls => ?_
    obtain ⟨name, hname, r, -, rfl⟩ := exists_left_of_forall₂ h hls
    exact closed_placeComponent (hnamed name (List.mem_cons_of_mem _ hname)) r.1 r.2
  exact .unlines (introduces_pageLines (hnamed _ (List.mem_cons_self ..)) o hsteps)

theorem introduces_start : Introduces (splitLines (startScript a)) [] := by
  refine introduces_startScript (fun p hp => ?_) (fun b hb => ?_) fun b hb => ?_
  · exact hnames _ (App.mem_names_of_page hp (List.mem_cons_self ..))
  · exact hnames _ (App.mem_names_of_binding (k := .list) hb (List.mem_cons_self ..))
  · exact hnames _ (App.mem_names_of_binding (k := .view) hb (List.mem_cons_self ..))

/-- **A script declares two constants for a model, and the functions of every declaration**, in the order of the
declarations. -/
theorem declarations_script {s : String} (h : (a.script o).result = .ok s) : declarations s = outline a := by
  obtain ⟨parts, pages, hparts, hpages, rfl⟩ := script_eq_parts h
  have hbound : ∀ k, ∀ t ∈ parts k, ∃ ds, Introduces (splitLines t) ds := by
    intro k t ht
    obtain ⟨b, hb, hsection⟩ := exists_left_of_forall₂ (hparts k) ht
    exact ⟨_, introduces_section hnames hb hsection⟩
  rw [declarations_sections]
  · have hmodels : (a.distinctModels.flatMap fun m => [unlines (modelLines m), changeNotice a m]).flatMap declarations =
        a.distinctModels.flatMap fun m => (constantSuffixes.map fun x => .constant (m.name ++ x)) ++
          modelFamilies.map fun f => .function (f ++ m.name) := by
      rw [List.flatMap_assoc]
      refine List.flatMap_congr fun m hm => ?_
      obtain ⟨hlines, hnotice⟩ := introduces_models hnames hm
      simp [hlines.declarations_eq, hnotice.declarations_eq, modelFamilies]
    have hkinds : ∀ k, (parts k).flatMap declarations =
        (a.bindings k).flatMap fun b => (handlerFamilies k).map fun f => .function (f ++ b.name) := fun k =>
      flatMap_eq_of_forall₂ (hparts k) fun b hb t ht => (introduces_section hnames hb ht).declarations_eq
    have hpaged : pages.flatMap declarations =
        a.pages.flatMap fun p => pageFamilies.map fun f => .function (f ++ p.name) := by
      refine flatMap_eq_of_forall₂ hpages fun p hp t ht => ?_
      obtain ⟨steps, hsteps, rfl⟩ := ht
      exact (introduces_page hnames hp hsteps).declarations_eq
    simp only [List.flatMap_append, hmodels, hkinds, hpaged, List.flatMap_singleton,
      (introduces_start hnames).declarations_eq, List.append_nil]
    rfl
  · simp only [List.forall_mem_append, List.forall_mem_singleton]
    refine ⟨⟨⟨⟨⟨fun t ht => ?_, hbound .form⟩, hbound .list⟩, hbound .view⟩, fun t ht => ?_⟩, ⟨_, introduces_start hnames⟩⟩
    · obtain ⟨m, hm, ht⟩ := List.mem_flatMap.1 ht
      obtain ⟨hlines, hnotice⟩ := introduces_models hnames hm
      rcases List.mem_cons.1 ht with rfl | ht
      · exact ⟨_, hlines⟩
      · rw [List.mem_singleton.1 ht]
        exact ⟨_, hnotice⟩
    · obtain ⟨p, hp, steps, hsteps, rfl⟩ := exists_left_of_forall₂ hpages ht
      exact ⟨_, introduces_page hnames hp hsteps⟩

end

end Pagewright.Script
