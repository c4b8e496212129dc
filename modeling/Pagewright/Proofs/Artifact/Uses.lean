/-
What the parts of a script use. Each part is bound to a declaration, and it uses functions of that declaration, of the model
it shows and of the components it places. So a script uses no function but those of declarations (`finds_script`): whatever
property all of these have (`Covers`), the functions that are used have it.
-/
import Pagewright.Proofs.Artifact.Calls
import Pagewright.Proofs.Artifact.Success

namespace Pagewright.Script

open Text

variable {D J : List Char → Prop}

/-! ## Layout -/

theorem finds_block {head tail : String} {body : Lines} : Every (Finds D J) (block head body tail) ↔
    Finds D J (head ++ " " ++ openBrace) ∧ Every (Finds D J) body ∧ Finds D J (closeBrace ++ tail) :=
  stackable_finds.every_block

theorem finds_indent {ls : Lines} : Every (Finds D J) (indent ls) ↔ Every (Finds D J) ls := stackable_finds.every_indent

theorem finds_orBlank {ls : Lines} : Every (Finds D J) (orBlank ls) ↔ Every (Finds D J) ls := stackable_finds.every_orBlank

theorem finds_paragraphs {gs : List Lines} : Every (Finds D J) (paragraphs gs) ↔ ∀ g ∈ gs, Every (Finds D J) g :=
  stackable_finds.every_paragraphs

/-- a line that uses one function -/
theorem Notes.finds_use {s : String} {w : List Char} (h : Notes s [w] []) (hw : D w) : Finds D J s :=
  h.finds (List.forall_mem_singleton.2 hw) (List.forall_mem_nil _)

/-- a line that injects one literal -/
theorem Notes.finds_injected {s : String} {x : List Char} (h : Notes s [] [x]) (hx : J x) : Finds D J s :=
  h.finds (List.forall_mem_nil _) (List.forall_mem_singleton.2 hx)

/-- a statement of one word uses nothing, whatever mark stands before it -/
theorem finds_statement {s : String} (h : s ∈ ["break;", "continue;", "return;"]) : Finds D J s := by
  refine finds_of_quiet fun fed word _ _ _ _ => ?_
  simp only [List.mem_cons, List.not_mem_nil, or_false] at h
  rcases h with rfl | rfl | rfl
  all_goals
    rw [String.toList_ofList]
    cases word <;> cases fed <;> exact ⟨_, _, _, _, rfl⟩

/-- the head of a function uses its name -/
theorem finds_head {p n : String} (hp : p ∈ families) (hn : Name.isName n.toList = true) (hD : D (p ++ n).toList)
    {parameters : String} (h : parameters ∈ ["", "id", "data", "id, data", "event"]) :
    Finds D J ("function " ++ (p ++ n) ++ "(" ++ parameters ++ ")" ++ " " ++ openBrace) := by
  have hnotes : Notes ("function " ++ (p ++ n) ++ "(" ++ parameters ++ ")" ++ " " ++ openBrace) [(p ++ n).toList] [] := by
    intro fed word uses target content injected
    have hbefore : ∃ fed' word', reading Tracker.next ⟨⟨false, fed, word, uses⟩, .code, target, content, injected⟩
        "function ".toList = some ⟨⟨false, fed', word', uses⟩, .code, false, content, injected⟩ := by
      rw [String.toList_ofList]
      exact ⟨_, _, rfl⟩
    obtain ⟨fed₁, word₁, hbefore⟩ := hbefore
    have hcall := Tracker.reading_call (isFamily_append hp n.toList) (isPart_of_mem_family hp hn) fed₁ word₁ uses false
      content injected
    have hafter : ∃ fed' word' target' content', reading Tracker.next
        ⟨⟨false, true, none, (p.toList ++ n.toList) :: uses⟩, .code, false, content, injected⟩
        (parameters ++ (")" ++ (" " ++ (openBrace ++ "\n")))).toList =
          some ⟨⟨false, fed', word', (p.toList ++ n.toList) :: uses⟩, .code, target', content', injected⟩ := by
      simp only [String.toList_append]
      simp only [List.mem_cons, List.not_mem_nil, or_false] at h
      rcases h with rfl | rfl | rfl | rfl | rfl
      all_goals
        repeat rw [String.toList_ofList]
        exact ⟨_, _, _, _, rfl⟩
    obtain ⟨fed', word', target', content', hafter⟩ := hafter
    have htext : ("function " ++ (p ++ n) ++ "(" ++ parameters ++ ")" ++ " " ++ openBrace).toList ++ ['\n'] =
        "function ".toList ++ ((p.toList ++ n.toList ++ ['(']) ++
          (parameters ++ (")" ++ (" " ++ (openBrace ++ "\n")))).toList) := by
      simp only [String.toList_append, List.append_assoc, show "(".toList = ['('] from rfl,
        show "\n".toList = ['\n'] from rfl]
    refine ⟨fed', word', target', content', ?_⟩
    rw [htext, reading_append, hbefore, Option.bind_some, reading_append, hcall, Option.bind_some, hafter,
      String.toList_append]
    rfl
  exact hnotes.finds_use hD

/-! ## Models -/

/-- a number or a word as a default is code that uses nothing -/
theorem Tracker.reading_wordy {l : List Char} (hl : ∀ c ∈ l, isWordy c = true) (cursor : Cursor) (content : List Char)
    (injected : List (List Char)) : ∃ cursor' : Cursor, cursor'.uses = cursor.uses ∧
      reading Tracker.next ⟨cursor, .code, false, content, injected⟩ l =
        some ⟨cursor', .code, false, content, injected⟩ := by
  induction l generalizing cursor with
  | nil => exact ⟨cursor, rfl, rfl⟩
  | cons c l ih =>
    obtain ⟨hc, hl⟩ := List.forall_mem_cons.1 hl
    have hne : ∀ d, isWordy d = false → c ≠ d := by
      rintro d hd rfl
      rw [hd] at hc
      cases hc
    have hstep : Tracker.next ⟨cursor, .code, false, content, injected⟩ c =
        some ⟨cursor.next c, .code, false, content, injected⟩ := by
      simp [Tracker.next, hne '"' (by decide), hne '=' (by decide)]
    have huses : (cursor.next c).uses = cursor.uses := by
      unfold Cursor.next
      split
      · split <;> rfl
      · split
        · rfl
        · simp [Cursor.hits, hne '(' (by decide), hne ')' (by decide), hne ',' (by decide), hne ';' (by decide)]
    obtain ⟨cursor', hcursor', hread⟩ := ih hl (cursor.next c)
    refine ⟨cursor', hcursor'.trans huses, ?_⟩
    rw [reading_cons, hstep]
    exact hread

/-- so is every default, whether it is a text or not -/
theorem Tracker.reading_default (d : Option Literal) (cursor : Cursor) (content : List Char) (injected : List (List Char)) :
    ∃ (cursor' : Cursor) (content' : List Char), cursor'.uses = cursor.uses ∧
      reading Tracker.next ⟨cursor, .code, false, content, injected⟩
        (scriptLiteral (.ofOption (d.map Literal.toValue))).toList = some ⟨cursor', .code, false, content', injected⟩ := by
  by_cases h : ∃ s, d = some (.text s)
  · obtain ⟨s, rfl⟩ := h
    have hread := Tracker.reading_scriptText s ⟨cursor, .code, false, content, injected⟩
    exact ⟨(cursor.next '"').next '"', [], rfl, hread⟩
  · have hwordy : ∀ c ∈ (scriptLiteral (.ofOption (d.map Literal.toValue))).toList, isWordy c = true :=
      fun c hc => isWordy_scriptLiteral (fun s hs => h ⟨s, hs⟩) hc
    obtain ⟨cursor', huses, hread⟩ := Tracker.reading_wordy hwordy cursor content injected
    exact ⟨cursor', content, huses, hread⟩

/-- what a script knows of a field, up to its default -/
def fieldStart (f : Field) : String :=
  f.name ++ ": " ++ (openBrace ++ " " ++ ("type: " ++ scriptText f.type ++ ", required: " ++
    scriptLiteral (.bool f.required) ++ ", defaultValue: "))

theorem fieldEntry_eq (f : Field) : fieldEntry f =
    fieldStart f ++ scriptLiteral (.ofOption (f.default.map Literal.toValue)) ++ (" " ++ closeBrace) := by
  simp only [fieldEntry, fieldStart, inBraces, String.append_assoc]

/-- up to its default, an entry is made of its name and of literals -/
theorem Tracker.reading_fieldStart {f : Field} (hname : Name.isName f.name.toList = true) (fed : Bool)
    (word : Option (List Char)) (uses : List (List Char)) (target : Bool) (content : List Char)
    (injected : List (List Char)) : ∃ (cursor : Cursor) (content' : List Char), cursor.uses = uses ∧
      reading Tracker.next ⟨⟨false, fed, word, uses⟩, .code, target, content, injected⟩ (fieldStart f).toList =
        some ⟨cursor, .code, false, content', injected⟩ := by
  have hbool : ∀ b : Bool, scriptLiteral (.bool b) = if b then "true" else "false" := by decide
  unfold fieldStart
  rw [hbool]
  cases f.required with
  | false =>
    simp only [Bool.false_eq_true, if_false, String.toList_append, reading_append, Tracker.reading_name hname,
      Tracker.reading_scriptText]
    repeat rw [String.toList_ofList]
    exact ⟨_, _, rfl, rfl⟩
  | true =>
    simp only [if_true, String.toList_append, reading_append, Tracker.reading_name hname, Tracker.reading_scriptText]
    repeat rw [String.toList_ofList]
    exact ⟨_, _, rfl, rfl⟩

/-- what a script knows of a field uses nothing, with or without a comma after it -/
theorem notes_fieldEntry {f : Field} (hname : Name.isName f.name.toList = true) {t : String} (ht : t ∈ ["", ","]) :
    Notes (fieldEntry f ++ t) [] [] := by
  intro fed word uses target content injected
  obtain ⟨cursor, content₁, huses₁, hread₁⟩ := Tracker.reading_fieldStart hname fed word uses target content injected
  obtain ⟨⟨inside, fed₂, word₂, uses₂⟩, content₂, huses₂, hread₂⟩ :=
    Tracker.reading_default f.default cursor content₁ injected
  have hafter : ∃ fed' word' target' content', reading Tracker.next
      ⟨⟨inside, fed₂, word₂, uses₂⟩, .code, false, content₂, injected⟩ ((" " ++ closeBrace ++ t).toList ++ ['\n']) =
        some ⟨⟨false, fed', word', uses₂⟩, .code, target', content', injected⟩ := by
    simp only [String.toList_append]
    simp only [List.mem_cons, List.not_mem_nil, or_false] at ht
    rcases ht with rfl | rfl
    · repeat rw [String.toList_ofList]
      exact ⟨_, _, _, _, rfl⟩
    · repeat rw [String.toList_ofList]
      exact ⟨_, _, _, _, rfl⟩
  obtain ⟨fed', word', target', content', hread⟩ := hafter
  have huses : uses₂ = uses := huses₂.trans huses₁
  refine ⟨fed', word', target', content', ?_⟩
  rw [fieldEntry_eq, String.append_assoc, String.append_assoc, String.toList_append, String.toList_append, List.append_assoc,
    List.append_assoc, reading_append, hread₁, Option.bind_some, reading_append, hread₂, Option.bind_some, hread, huses]
  rfl

/-- what a script knows of a model uses nothing -/
theorem finds_modelConstant {m : Model} (hnames : ∀ n ∈ m.names, Name.isName n.toList = true) :
    Every (Finds D J) (modelConstant m) := by
  have hname : Name.isName m.name.toList = true := hnames _ (List.mem_cons_self ..)
  have hnamed : ∀ f ∈ m.fields, Name.isName f.name.toList = true := fun f hf =>
    hnames _ (List.mem_cons_of_mem _ (List.mem_flatMap.2 ⟨f, hf, List.mem_cons_self ..⟩))
  have hentries : Every (Finds D J) (commaSeparated (m.fields.map fieldEntry)) := by
    refine every_commaSeparated (List.forall_mem_map.2 fun f hf => ⟨?_, ?_⟩)
    · have hentry := notes_fieldEntry (hnamed f hf) (t := "") (by decide)
      rw [String.append_empty] at hentry
      exact finds_of_quiet hentry
    · exact finds_of_quiet (notes_fieldEntry (hnamed f hf) (by decide))
  unfold modelConstant
  simp only [finds_block, finds_orBlank, every_append, every_cons, every_nil, hentries, and_true, true_and]
  and_intros
  all_goals
    refine finds_of_quiet ?_
    simp only [Notes, String.toList_append, reading_append, Tracker.reading_name hname, Tracker.reading_scriptText]
    repeat rw [String.toList_ofList]
    exact fun _ _ _ _ _ _ => ⟨_, _, _, _, rfl⟩

/-- a model defines its own functions -/
theorem finds_modelLines {m : Model} (hnames : ∀ n ∈ m.names, Name.isName n.toList = true)
    (hrecords : ∀ p ∈ modelFamilies, D (p ++ m.name).toList) : Every (Finds D J) (modelLines m) := by
  have hname : Name.isName m.name.toList = true := hnames _ (List.mem_cons_self ..)
  have hconstant : Every (Finds D J) (modelConstant m) := finds_modelConstant hnames
  have hhead : ∀ p ∈ modelFamilies, ∀ parameters ∈ ["", "id", "data", "id, data", "event"],
      Finds D J ("function " ++ (p ++ m.name) ++ "(" ++ parameters ++ ")" ++ " " ++ openBrace) :=
    fun p hp _ h => finds_head (List.mem_append_left _ (by simp [hp])) hname (hrecords p hp) h
  unfold modelLines findIndex function inBraces
  simp only [finds_paragraphs, finds_block, every_append, every_cons, every_nil, List.forall_mem_cons, List.not_mem_nil,
    false_imp_iff, implies_true, and_true, true_and, hconstant, hhead "getAll_" (by decide) "" (by decide),
    hhead "get_" (by decide) "id" (by decide), hhead "create_" (by decide) "data" (by decide),
    hhead "update_" (by decide) "id, data" (by decide), hhead "delete_" (by decide) "id" (by decide)]
  and_intros
  all_goals
    refine finds_of_quiet ?_
    simp only [Notes, String.toList_append, reading_append, Tracker.reading_name hname]
    repeat rw [String.toList_ofList]
    exact fun _ _ _ _ _ _ => ⟨_, _, _, _, rfl⟩

/-- a list or view is shown anew by its own function -/
theorem finds_refreshCall {c : Component} (hname : Name.isName c.binding.name.toList = true)
    (hlist : c.kind ≠ .view → D ("refreshList_" ++ c.binding.name).toList)
    (hview : c.kind = .view → D ("refreshView_" ++ c.binding.name).toList) : Finds D J (refreshCall c ++ ";") := by
  have huses : Notes ("refreshView_" ++ c.binding.name ++ "()" ++ ";") [("refreshView_" ++ c.binding.name).toList] [] ∧
      Notes ("refreshList_" ++ c.binding.name ++ "()" ++ ";") [("refreshList_" ++ c.binding.name).toList] [] := by
    simp only [Notes, String.toList_append, reading_append, Tracker.reading_name hname]
    repeat rw [String.toList_ofList]
    and_intros <;> exact fun _ _ _ _ _ _ => ⟨_, _, _, _, rfl⟩
  unfold refreshCall
  split
  · next hkind => exact huses.1.finds_use (hview hkind)
  · next hkind => exact huses.2.finds_use (hlist hkind)

theorem finds_changeNotice {a : App} {m : Model} (hname : Name.isName m.name.toList = true)
    (hrecords : ∀ p ∈ modelFamilies, D (p ++ m.name).toList)
    (hdisplays : ∀ c ∈ a.displaysOf m.name, Finds D J (refreshCall c ++ ";")) :
    Every (Finds D J) (function ("refreshLists_" ++ m.name) ""
      ((a.displaysOf m.name).map fun c => refreshCall c ++ ";")) := by
  have hcalls : Every (Finds D J) ((a.displaysOf m.name).map fun c => refreshCall c ++ ";") := every_map.2 hdisplays
  have hhead : Finds D J ("function " ++ ("refreshLists_" ++ m.name) ++ "(" ++ "" ++ ")" ++ " " ++ openBrace) :=
    finds_head (by decide) hname (hrecords _ (by decide)) (by decide)
  unfold function
  simp only [finds_block, hcalls, hhead, true_and]
  refine finds_of_quiet ?_
  simp only [Notes, String.toList_append, reading_append]
  repeat rw [String.toList_ofList]
  exact fun _ _ _ _ _ _ => ⟨_, _, _, _, rfl⟩

/-! ## Forms, lists and views -/

theorem finds_cell {f : Field} (hname : Name.isName f.name.toList = true) : Finds D J (cell f) := by
  refine finds_of_quiet ?_
  unfold cell shownValue
  cases f.kind
  all_goals
    simp only [Notes, String.toList_append, reading_append, Tracker.reading_name hname]
    repeat rw [String.toList_ofList]
    exact fun _ _ _ _ _ _ => ⟨_, _, _, _, rfl⟩

theorem finds_cardLine {f : Field} (hname : Name.isName f.name.toList = true) : Finds D J (cardLine f) := by
  refine finds_of_quiet ?_
  unfold cardLine shownValue
  cases f.kind
  all_goals
    simp only [Notes, String.toList_append, reading_append, Tracker.reading_name hname, Tracker.reading_scriptText]
    repeat rw [String.toList_ofList]
    exact fun _ _ _ _ _ _ => ⟨_, _, _, _, rfl⟩

theorem finds_question {f : Field} (hname : Name.isName f.name.toList = true) : Every (Finds D J) (question f) := by
  have hanswer : Finds D J ("newData." ++ f.name ++ " = " ++ answerValue f ++ ";") := by
    refine finds_of_quiet ?_
    unfold answerValue
    cases f.kind
    all_goals
      simp only [Notes, String.toList_append, reading_append, Tracker.reading_name hname]
      repeat rw [String.toList_ofList]
      exact fun _ _ _ _ _ _ => ⟨_, _, _, _, rfl⟩
  unfold question
  simp only [finds_block, every_append, every_cons, every_nil, hanswer, and_true, true_and]
  and_intros
  all_goals
    refine finds_of_quiet ?_
    simp only [Notes, String.toList_append, reading_append, Tracker.reading_name hname]
    repeat rw [String.toList_ofList]
    exact fun _ _ _ _ _ _ => ⟨_, _, _, _, rfl⟩

section

variable {b : Binding} (hname : Name.isName b.name.toList = true) (hmodel : Name.isName b.model.toList = true)
  (hrecords : ∀ p ∈ modelFamilies, D (p ++ b.model).toList)

include hname hmodel hrecords

theorem finds_formLines (hform : ∀ p ∈ formFamilies, D (p ++ b.name).toList) : Every (Finds D J) (formLines b) := by
  have hhandle : Finds D J ("function " ++ ("handleSubmit_" ++ b.name) ++ "(" ++ "event" ++ ")" ++ " " ++ openBrace) :=
    finds_head (by decide) hname (hform _ (by decide)) (by decide)
  have hreset : Finds D J ("function " ++ ("resetForm_" ++ b.name) ++ "(" ++ "" ++ ")" ++ " " ++ openBrace) :=
    finds_head (by decide) hname (hform _ (by decide)) (by decide)
  have huses : Notes ("create_" ++ b.model ++ "(formData);") [("create_" ++ b.model).toList] [] ∧
      Notes ("resetForm_" ++ b.name ++ "();") [("resetForm_" ++ b.name).toList] [] ∧
      Notes ("refreshLists_" ++ b.model ++ "();") [("refreshLists_" ++ b.model).toList] [] := by
    simp only [Notes, String.toList_append, reading_append, Tracker.reading_name hname, Tracker.reading_name hmodel]
    repeat rw [String.toList_ofList]
    and_intros <;> exact fun _ _ _ _ _ _ => ⟨_, _, _, _, rfl⟩
  obtain ⟨hcreate, hclear, hrefresh⟩ := huses
  have hcreate : Finds D J _ := hcreate.finds_use (hrecords _ (by decide))
  have hclear : Finds D J _ := hclear.finds_use (hform _ (by decide))
  have hrefresh : Finds D J _ := hrefresh.finds_use (hrecords _ (by decide))
  have hbreak : Finds D J "break;" := finds_statement (by decide)
  have hcontinue : Finds D J "continue;" := finds_statement (by decide)
  unfold formLines readElement switchCase function elementById
  simp only [finds_paragraphs, finds_block, finds_indent, every_append, every_cons, every_nil, List.forall_mem_cons,
    List.not_mem_nil, false_imp_iff, implies_true, and_true, true_and, hhandle, hreset, hcreate, hclear, hrefresh, hbreak,
    hcontinue]
  and_intros
  all_goals
    refine finds_of_quiet ?_
    simp only [Notes, String.toList_append, reading_append, Tracker.reading_name hname]
    repeat rw [String.toList_ofList]
    exact fun _ _ _ _ _ _ => ⟨_, _, _, _, rfl⟩

theorem finds_listLines (hlist : ∀ p ∈ listFamilies, D (p ++ b.name).toList) (hempty : J []) {fields : List Field}
    (hfields : ∀ f ∈ fields, Name.isName f.name.toList = true) : Every (Finds D J) (listLines b fields) := by
  have hcells : Every (Finds D J) (fields.map cell) := every_map.2 fun f hf => finds_cell (hfields f hf)
  have hquestions : Every (Finds D J) (fields.flatMap question) :=
    every_flatMap.2 fun f hf => finds_question (hfields f hf)
  have hrefresh : Finds D J ("function " ++ ("refreshList_" ++ b.name) ++ "(" ++ "" ++ ")" ++ " " ++ openBrace) :=
    finds_head (by decide) hname (hlist _ (by decide)) (by decide)
  have hedit : Finds D J ("function " ++ ("editItem_" ++ b.name) ++ "(" ++ "id" ++ ")" ++ " " ++ openBrace) :=
    finds_head (by decide) hname (hlist _ (by decide)) (by decide)
  have hdelete : Finds D J ("function " ++ ("deleteItem_" ++ b.name) ++ "(" ++ "id" ++ ")" ++ " " ++ openBrace) :=
    finds_head (by decide) hname (hlist _ (by decide)) (by decide)
  have huses : Notes ("getAll_" ++ b.model ++ "().forEach(item =>" ++ " " ++ openBrace) [("getAll_" ++ b.model).toList] [] ∧
      Notes ("editBtn" ++ ".onclick = () => " ++ ("editItem_" ++ b.name) ++ "(item.id);")
        [("editItem_" ++ b.name).toList] [] ∧
      Notes ("deleteBtn" ++ ".onclick = () => " ++ ("deleteItem_" ++ b.name) ++ "(item.id);")
        [("deleteItem_" ++ b.name).toList] [] ∧
      Notes ("const item = get_" ++ b.model ++ "(id);") [("get_" ++ b.model).toList] [] ∧
      Notes ("update_" ++ b.model ++ "(id, newData);") [("update_" ++ b.model).toList] [] ∧
      Notes ("delete_" ++ b.model ++ "(id);") [("delete_" ++ b.model).toList] [] ∧
      Notes ("refreshLists_" ++ b.model ++ "();") [("refreshLists_" ++ b.model).toList] [] ∧
      Notes "tbody.innerHTML = \"\";" [] [[]] := by
    simp only [Notes, String.toList_append, reading_append, Tracker.reading_name hname, Tracker.reading_name hmodel]
    repeat rw [String.toList_ofList]
    and_intros <;> exact fun _ _ _ _ _ _ => ⟨false, none, false, _, rfl⟩
  obtain ⟨hall, honEdit, honDelete, hget, hupdate, hremove, hnotice, hclear⟩ := huses
  have hall : Finds D J _ := hall.finds_use (hrecords _ (by decide))
  have honEdit : Finds D J _ := honEdit.finds_use (hlist _ (by decide))
  have honDelete : Finds D J _ := honDelete.finds_use (hlist _ (by decide))
  have hget : Finds D J _ := hget.finds_use (hrecords _ (by decide))
  have hupdate : Finds D J _ := hupdate.finds_use (hrecords _ (by decide))
  have hremove : Finds D J _ := hremove.finds_use (hrecords _ (by decide))
  have hnotice : Finds D J _ := hnotice.finds_use (hrecords _ (by decide))
  have hclear : Finds D J _ := hclear.finds_injected hempty
  have hreturn : Finds D J "return;" := finds_statement (by decide)
  unfold listLines returnUnless rowButton function elementById
  simp only [finds_paragraphs, finds_block, finds_orBlank, every_append, every_cons, every_nil, List.forall_mem_cons,
    List.not_mem_nil, false_imp_iff, implies_true, and_true, true_and, hcells, hquestions, hrefresh, hedit, hdelete, hall,
    honEdit, honDelete, hget, hupdate, hremove, hnotice, hclear, hreturn]
  and_intros
  all_goals
    refine finds_of_quiet ?_
    simp only [Notes, String.toList_append, reading_append, Tracker.reading_name hname]
    repeat rw [String.toList_ofList]
    exact fun _ _ _ _ _ _ => ⟨_, _, _, _, rfl⟩

theorem finds_viewLines (hview : ∀ p ∈ viewFamilies, D (p ++ b.name).toList) (hempty : J []) {fields : List Field}
    (hfields : ∀ f ∈ fields, Name.isName f.name.toList = true) : Every (Finds D J) (viewLines b fields) := by
  have hcards : Every (Finds D J) (fields.map cardLine) := every_map.2 fun f hf => finds_cardLine (hfields f hf)
  have hrefresh : Finds D J ("function " ++ ("refreshView_" ++ b.name) ++ "(" ++ "" ++ ")" ++ " " ++ openBrace) :=
    finds_head (by decide) hname (hview _ (by decide)) (by decide)
  have huses : Notes ("getAll_" ++ b.model ++ "().forEach(item =>" ++ " " ++ openBrace) [("getAll_" ++ b.model).toList] [] ∧
      Notes "container.innerHTML = \"\";" [] [[]] := by
    simp only [Notes, String.toList_append, reading_append, Tracker.reading_name hmodel]
    repeat rw [String.toList_ofList]
    and_intros <;> exact fun _ _ _ _ _ _ => ⟨false, none, false, _, rfl⟩
  obtain ⟨hall, hclear⟩ := huses
  have hall : Finds D J _ := hall.finds_use (hrecords _ (by decide))
  have hclear : Finds D J _ := hclear.finds_injected hempty
  have hreturn : Finds D J "return;" := finds_statement (by decide)
  unfold viewLines addLine returnUnless function elementById
  simp only [finds_block, finds_orBlank, every_append, every_cons, every_nil, and_true, true_and, hcards, hrefresh, hall,
    hclear, hreturn]
  and_intros
  all_goals
    refine finds_of_quiet ?_
    simp only [Notes, String.toList_append, reading_append, Tracker.reading_name hname]
    repeat rw [String.toList_ofList]
    exact fun _ _ _ _ _ _ => ⟨_, _, _, _, rfl⟩

end

/-! ## Pages -/

/-- a component is put in place as markup, and shown anew by its own function if it is a list or a view -/
theorem finds_placeComponent {name : String} (hname : Name.isName name.toList = true) {c : Option Component}
    (hlist : c.map Component.kind = some .list → D ("refreshList_" ++ name).toList)
    (hview : c.map Component.kind = some .view → D ("refreshView_" ++ name).toList) {fragment : String}
    (hfragment : J (literalBody false fragment.toList)) : Every (Finds D J) (placeComponent name c fragment) := by
  have huses : Notes (elementById (name ++ "-container") ++ ".innerHTML = " ++ scriptText fragment ++ ";") []
        [literalBody false fragment.toList] ∧
      Notes ("setTimeout(() => refreshList_" ++ name ++ "(), 0);") [("refreshList_" ++ name).toList] [] ∧
      Notes ("setTimeout(() => refreshView_" ++ name ++ "(), 0);") [("refreshView_" ++ name).toList] [] := by
    unfold elementById
    simp only [Notes, String.toList_append, reading_append, Tracker.reading_name hname, Tracker.reading_scriptText]
    repeat rw [String.toList_ofList]
    and_intros <;> exact fun _ _ _ _ _ _ => ⟨_, _, _, _, rfl⟩
  obtain ⟨hplace, hshowList, hshowView⟩ := huses
  refine every_append.2 ⟨every_cons.2 ⟨hplace.finds_injected hfragment, every_nil⟩, ?_⟩
  split
  · next hkind => exact every_cons.2 ⟨hshowList.finds_use (hlist hkind), every_nil⟩
  · next hkind => exact every_cons.2 ⟨hshowView.finds_use (hview hkind), every_nil⟩
  · exact every_nil

theorem finds_pageLines {o : Options} {p : Page} (hname : Name.isName p.name.toList = true)
    (hpage : ∀ q ∈ pageFamilies, D (q ++ p.name).toList)
    (hshell : J (literalBody false (Fragment.shell p.title (Fragment.containers p []) o.footerText).toList)) {steps : Lines}
    (hsteps : Every (Finds D J) steps) : Every (Finds D J) (pageLines o p steps) := by
  have hhead : Finds D J ("function " ++ ("renderPage_" ++ p.name) ++ "(" ++ "" ++ ")" ++ " " ++ openBrace) :=
    finds_head (by decide) hname (hpage _ (by decide)) (by decide)
  have hnotes : ∀ s, Notes ("document.body.innerHTML = " ++ scriptText s ++ ";") [] [literalBody false s.toList] := by
    intro s
    simp only [Notes, String.toList_append, reading_append, Tracker.reading_scriptText]
    repeat rw [String.toList_ofList]
    exact fun _ _ _ _ _ _ => ⟨_, _, _, _, rfl⟩
  have hbody := (hnotes _).finds_injected (D := D) hshell
  unfold pageLines function
  simp only [finds_block, every_append, every_cons, every_nil, and_true, true_and, hhead, hbody, hsteps]
  and_intros
  all_goals
    refine finds_of_quiet ?_
    simp only [Notes, String.toList_append, reading_append, Tracker.reading_name hname]
    repeat rw [String.toList_ofList]
    exact fun _ _ _ _ _ _ => ⟨_, _, _, _, rfl⟩

/-! ## Scripts -/

/-- a property of all functions of the declarations of an application -/
structure Covers (a : App) (D : List Char → Prop) : Prop where
  models : ∀ m ∈ a.models, ∀ p ∈ modelFamilies, D (p ++ m.name).toList
  forms : ∀ b ∈ a.forms, ∀ p ∈ formFamilies, D (p ++ b.name).toList
  lists : ∀ b ∈ a.lists, ∀ p ∈ listFamilies, D (p ++ b.name).toList
  views : ∀ b ∈ a.views, ∀ p ∈ viewFamilies, D (p ++ b.name).toList
  pages : ∀ q ∈ a.pages, ∀ p ∈ pageFamilies, D (p ++ q.name).toList

/-- the markup that a script puts in place: nothing, where a list or view is shown anew, the frame of a page, and its
components -/
inductive Placed (a : App) (o : Options) : String → Prop
  | nothing : Placed a o ""
  | frame {p : Page} (hp : p ∈ a.pages) : Placed a o (Fragment.shell p.title (Fragment.containers p []) o.footerText)
  | component {p : Page} (hp : p ∈ a.pages) {name : String} (hname : name ∈ p.components) {r : Option Component × String}
    (h : (a.componentHtml o p name).result = .ok r) : Placed a o r.2

/-- literals with markup that a script puts in place -/
def PlacedText (a : App) (o : Options) (x : List Char) : Prop := ∃ html, Placed a o html ∧ x = literalBody false html.toList

/-- a binding that was looked up shows a declared model -/
theorem covers_model {a : App} {o : Options} (hD : Covers a D) {c : Component} {fs : List Field}
    (h : a.lookupFields o c = .ok fs) : ∀ p ∈ modelFamilies, D (p ++ c.binding.model).toList := by
  obtain ⟨m, hm, hname⟩ := App.exists_model_of_lookupFields h
  rw [← hname]
  exact hD.models m hm

section

variable {a : App} {o : Options} (hnames : ∀ n ∈ a.names, Name.isName n.toList = true)

include hnames

theorem isName_binding {k : BindingKind} {b : Binding} (hb : b ∈ a.bindings k) :
    Name.isName b.name.toList = true ∧ Name.isName b.model.toList = true := by
  have hname : b.name ∈ b.names := List.mem_cons_self ..
  have hmodel : b.model ∈ b.names := List.mem_cons_of_mem _ (List.mem_cons_self ..)
  exact ⟨hnames _ (App.mem_names_of_binding hb hname), hnames _ (App.mem_names_of_binding hb hmodel)⟩

variable (hD : Covers a D)

include hD

theorem finds_display {k : BindingKind} (hk : k ≠ .form) {b : Binding} (hb : b ∈ a.bindings k) :
    Finds D J (refreshCall ⟨k, b⟩ ++ ";") := by
  obtain ⟨hname, -⟩ := isName_binding hnames hb
  cases k with
  | form => exact absurd rfl hk
  | list => exact finds_refreshCall hname (fun _ => hD.lists b hb _ (by decide)) fun h => nomatch h
  | view => exact finds_refreshCall hname (fun h => absurd rfl h) fun _ => hD.views b hb _ (by decide)

theorem finds_displays : ∀ c ∈ a.lists.map (Component.mk .list) ++ a.views.map (Component.mk .view),
    Finds D J (refreshCall c ++ ";") := by
  intro c hc
  rcases List.mem_append.1 hc with hc | hc
  · obtain ⟨b, hb, rfl⟩ := List.mem_map.1 hc
    exact finds_display hnames hD (k := .list) (by decide) hb
  · obtain ⟨b, hb, rfl⟩ := List.mem_map.1 hc
    exact finds_display hnames hD (k := .view) (by decide) hb

theorem finds_startScript : Finds D J (startScript a) := by
  unfold startScript
  cases hp : a.landingPage? with
  | some p =>
    have hpage : p ∈ a.pages := List.mem_of_mem_head? hp
    have hname := hnames _ (App.mem_names_of_page hpage (List.mem_cons_self ..))
    have hnotes : Notes ("document.addEventListener(\"DOMContentLoaded\", " ++ "renderPage_" ++ p.name ++ ");")
        [("renderPage_" ++ p.name).toList] [] := by
      simp only [Notes, String.toList_append, reading_append, Tracker.reading_name hname]
      repeat rw [String.toList_ofList]
      exact fun _ _ _ _ _ _ => ⟨false, none, false, _, rfl⟩
    exact hnotes.finds_use (hD.pages p hpage _ (by decide))
  | none =>
    have hcalls : Every (Finds D J) ((a.lists.map (Component.mk .list) ++ a.views.map (Component.mk .view)).map
        fun c => refreshCall c ++ ";") := every_map.2 (finds_displays hnames hD)
    refine stackable_finds.unlines ?_
    simp only [finds_block, hcalls, true_and]
    and_intros
    all_goals
      refine finds_of_quiet ?_
      simp only [Notes, String.toList_append, reading_append]
      repeat rw [String.toList_ofList]
      exact fun _ _ _ _ _ _ => ⟨_, _, _, _, rfl⟩

theorem finds_model {m : Model} (hm : m ∈ a.distinctModels) : Every (Finds D J) (modelLines m) := by
  have hmem := App.mem_models_of_mem_distinctModels hm
  exact finds_modelLines (fun n hn => hnames n (App.mem_names_of_model hmem hn)) (hD.models m hmem)

theorem finds_notice {m : Model} (hm : m ∈ a.distinctModels) :
    Every (Finds D J) (function ("refreshLists_" ++ m.name) ""
      ((a.displaysOf m.name).map fun c => refreshCall c ++ ";")) := by
  have hmem := App.mem_models_of_mem_distinctModels hm
  exact finds_changeNotice (hnames _ (App.mem_names_of_model hmem (List.mem_cons_self ..))) (hD.models m hmem) fun c hc =>
    finds_displays hnames hD c (List.mem_filter.1 hc).1

theorem finds_form {b : Binding} (hb : b ∈ a.forms) {fs : List Field} (h : a.lookupFields o ⟨.form, b⟩ = .ok fs) :
    Every (Finds D J) (formLines b) := by
  obtain ⟨hname, hmodel⟩ := isName_binding hnames (k := .form) hb
  have hrecords := covers_model hD h
  exact finds_formLines hname hmodel hrecords (hD.forms b hb)

theorem finds_list {b : Binding} (hb : b ∈ a.lists) {fs : List Field} (h : a.lookupFields o ⟨.list, b⟩ = .ok fs) :
    Every (Finds D (PlacedText a o)) (listLines b fs) := by
  obtain ⟨hname, hmodel⟩ := isName_binding hnames (k := .list) hb
  have hrecords := covers_model hD h
  exact finds_listLines hname hmodel hrecords (hD.lists b hb) ⟨"", .nothing, rfl⟩ fun f hf =>
    hnames _ (App.name_mem_of_lookupFields hb h hf)

theorem finds_view {b : Binding} (hb : b ∈ a.views) {fs : List Field} (h : a.lookupFields o ⟨.view, b⟩ = .ok fs) :
    Every (Finds D (PlacedText a o)) (viewLines b fs) := by
  obtain ⟨hname, hmodel⟩ := isName_binding hnames (k := .view) hb
  have hrecords := covers_model hD h
  exact finds_viewLines hname hmodel hrecords (hD.views b hb) ⟨"", .nothing, rfl⟩ fun f hf =>
    hnames _ (App.name_mem_of_lookupFields hb h hf)

/-- a page places its components, and shows those that are lists and views -/
theorem finds_page {p : Page} (hp : p ∈ a.pages) {steps : List Lines} (h : Places a o p steps) :
    Every (Finds D (PlacedText a o)) (pageLines o p steps.flatten) := by
  have hsteps : Every (Finds D (PlacedText a o)) steps.flatten := by
    refine every_flatten.2 fun ls hls => ?_
    obtain ⟨name, hname, r, hr, rfl⟩ := exists_left_of_forall₂ h hls
    have hcomponent := (App.componentHtml_eq_ok hr).1
    -- a name on a page that means a binding is the name of that binding
    have hmeans : ∀ k, r.1.map Component.kind = some k → ∃ b ∈ a.bindings k, b.name = name := by
      intro k hk
      obtain ⟨c, hc, rfl⟩ := Option.map_eq_some_iff.1 hk
      rw [hc] at hcomponent
      exact ⟨c.binding, App.component?_mem hcomponent.symm, App.component?_name hcomponent.symm⟩
    refine finds_placeComponent (hnames _ (App.mem_names_of_page hp (List.mem_cons_of_mem _ hname))) (fun hk => ?_)
      (fun hk => ?_) ⟨r.2, .component hp hname hr, rfl⟩
    · obtain ⟨b, hb, rfl⟩ := hmeans .list hk
      exact hD.lists b hb _ (by decide)
    · obtain ⟨b, hb, rfl⟩ := hmeans .view hk
      exact hD.views b hb _ (by decide)
  have hname := hnames _ (App.mem_names_of_page hp (List.mem_cons_self ..))
  exact finds_pageLines hname (hD.pages p hp) ⟨_, .frame hp, rfl⟩ hsteps

theorem finds_section {s : String} (h : IsSection a o s) : Finds D (PlacedText a o) s := by
  cases h with
  | model hm => exact stackable_finds.unlines (finds_model hnames hD hm)
  | notice hm => exact stackable_finds.unlines (finds_notice hnames hD hm)
  | form hb h => exact stackable_finds.unlines (finds_form hnames hD hb h)
  | list hb h => exact stackable_finds.unlines (finds_list hnames hD hb h)
  | view hb h => exact stackable_finds.unlines (finds_view hnames hD hb h)
  | page hp h => exact stackable_finds.unlines (finds_page hnames hD hp h)
  | start => exact finds_startScript hnames hD

/-- **A script uses functions of declarations only**, and injects only the markup of its pages. -/
theorem finds_script {s : String} (h : (a.script o).result = .ok s) : Finds D (PlacedText a o) s := by
  obtain ⟨ss, hss, rfl⟩ := script_eq_ok h
  exact stackable_finds.sections fun t ht => finds_section hnames hD (hss.only t ht)

end

end Pagewright.Script
