/-
Which definition of a handler is in force. A script may declare a function more than once, and the last declaration replaces
those before it (`inForce?`). The definitions of a handler in a script are those of the bindings of its kind and name, one
for each of them and in their order (`forall₂_definitionsOf`), but a name on a page means the first of these bindings. So
the handlers in force are those of the last binding, and the component that is shown has its own handlers when no other
binding takes its name.
-/
import Pagewright.Proofs.Artifact.Margin
import Pagewright.Proofs.Artifact.Success

namespace Pagewright

open Text

/-- the word that a name is where words are read: a line end after it is no part of the word -/
def Name.word (n : String) : List Char := n.toList.takeWhile Name.isPart

/-- the bindings of a kind that are declared by one word, in their order -/
def App.bindingsNamed (a : App) (k : BindingKind) (name : String) : List Binding :=
  (a.bindings k).filter fun b => Name.word b.name = Name.word name

namespace Script

/-! ## Definitions of a script -/

/-- the word that a function is declared by, which follows the keyword -/
def declaredWord (f : String) : List Char := (f.toList.drop "function ".toList.length).takeWhile Name.isPart

/-- the functions that a script defines, in their order -/
def definitions (s : String) : List String := (functionsIn (splitLines s)).map unlines

def definitionsOf (s : String) (w : List Char) : List String := (definitions s).filter fun f => declaredWord f = w

/-- the definition of a function that replaces all others -/
def inForce? (s : String) (w : List Char) : Option String := (definitionsOf s w).getLast?

/-- the functions of a binding, by what their names start with -/
def handlerFamilies : BindingKind → List String
  | .form => formFamilies
  | .list => listFamilies
  | .view => viewFamilies

/-- the functions in force for a name are those that are generated from a component -/
def Governs (s name : String) (c : Component) (fields : List Field) : Prop :=
  ∀ f ∈ handlerFamilies c.kind, ∃ d, definitionsOf (unlines (componentLines c fields)) (Name.word (f ++ name)) = [d] ∧
    inForce? s (Name.word (f ++ name)) = some d

/-- two components have the same functions for a name, word for word -/
def SameHandlers (name : String) (c c' : Component) (fields fields' : List Field) : Prop :=
  ∀ f ∈ handlerFamilies c.kind, definitionsOf (unlines (componentLines c fields)) (Name.word (f ++ name)) =
    definitionsOf (unlines (componentLines c' fields')) (Name.word (f ++ name))

/-- the functions of a component are in force beside those of another exactly if they are the same -/
theorem Governs.governs_iff {s name : String} {k : BindingKind} {b b' : Binding} {fs fs' : List Field}
    (h : Governs s name ⟨k, b'⟩ fs') : Governs s name ⟨k, b⟩ fs ↔ SameHandlers name ⟨k, b⟩ ⟨k, b'⟩ fs fs' := by
  constructor
  · intro hown f hf
    obtain ⟨d, hd, hforce⟩ := hown f hf
    obtain ⟨e, he, hforce'⟩ := h f hf
    have hsame : d = e := Option.some.inj (hforce.symm.trans hforce')
    rw [hd, he, hsame]
  · intro hsame f hf
    obtain ⟨e, he, hforce⟩ := h f hf
    exact ⟨e, (hsame f hf).trans he, hforce⟩

/-! ## Words -/

theorem word_append {f : String} (hf : f ∈ families) (n : String) : Name.word (f ++ n) = f.toList ++ Name.word n := by
  rw [Name.word, String.toList_append, List.takeWhile_append_of_pos (isPart_of_mem_families hf), Name.word]

/-- no family continues another, so a function belongs to one family and one name -/
theorem word_append_inj {f g : String} (hf : f ∈ families) (hg : g ∈ families) {n m : String} :
    Name.word (f ++ n) = Name.word (g ++ m) ↔ f = g ∧ Name.word n = Name.word m := by
  have hfree : ∀ p ∈ familyPrefixes, ∀ q ∈ familyPrefixes, p <+: q → p = q := by decide
  have hmem : ∀ {p : String}, p ∈ families → p.toList ∈ familyPrefixes := fun hp =>
    map_toList_families ▸ List.mem_map_of_mem hp
  rw [word_append hf, word_append hg]
  constructor
  · intro h
    have hsame : f = g := by
      rcases List.prefix_or_prefix_of_prefix (List.prefix_append _ _) (h ▸ List.prefix_append _ _) with hle | hle
      · exact String.toList_inj.1 (hfree _ (hmem hg) _ (hmem hf) hle).symm
      · exact String.toList_inj.1 (hfree _ (hmem hf) _ (hmem hg) hle)
    subst hsame
    exact ⟨rfl, List.append_cancel_left h⟩
  · intro h
    rw [h.1, h.2]

theorem declaredWord_function (name parameters : String) (body : Lines) :
    declaredWord (unlines (function name parameters body)) = Name.word name := by
  obtain ⟨rest, hrest⟩ : ∃ rest, (unlines (function name parameters body)).toList =
      "function ".toList ++ (name.toList ++ '(' :: rest) := by
    unfold function block unlines
    cases hbody : indent body ++ [closeBrace ++ ""] with
    | nil => simp at hbody
    | cons l ls =>
      rw [List.append_assoc, hbody, List.singleton_append, String.intercalate_cons_cons]
      simp only [String.toList_append, List.append_assoc]
      exact ⟨_, rfl⟩
  have hmark : ('(' :: rest).takeWhile Name.isPart = [] := rfl
  rw [declaredWord, hrest, List.drop_left, List.takeWhile_append, hmark]
  split_ifs with hlength
  · rw [List.append_nil, Name.word, (List.takeWhile_prefix _).eq_of_length hlength]
  · rfl

/-! ## Functions of lines -/

section

variable {ls : Lines} {fs : List Lines} (h : Holds ls fs)

include h

theorem Holds.functionsIn_unlines (rest : Lines) :
    functionsIn (splitLines (unlines ls) ++ rest) = fs.map pieces ++ functionsIn rest := by
  rw [← h rest]
  cases ls with
  | nil => rfl
  | cons l ls => rw [splitLines_unlines (List.cons_ne_nil _ _), pieces]

theorem Holds.definitions_unlines : definitions (unlines ls) = fs.map unlines := by
  have hall : functionsIn (splitLines (unlines ls)) = fs.map pieces := by
    simpa [functionsIn] using h.functionsIn_unlines []
  rw [definitions, hall, List.map_map]
  exact List.map_congr_left fun f _ => unlines_pieces f

end

/-! ## Sections -/

/-- a section defines the functions of some families for one name, and nothing reaches over its end -/
def Serves (t : String) (families : List String) (n : String) : Prop :=
  (∀ rest, functionsIn (splitLines t ++ rest) = functionsIn (splitLines t) ++ functionsIn rest) ∧
    (definitions t).map declaredWord = families.map fun f => Name.word (f ++ n)

theorem Holds.serves {ls : Lines} {fs : List Lines} (h : Holds ls fs) {G : List String} {n : String}
    (hwords : fs.map (fun f => declaredWord (unlines f)) = G.map fun f => Name.word (f ++ n)) : Serves (unlines ls) G n := by
  refine ⟨fun rest => ?_, ?_⟩
  · have hall := h.functionsIn_unlines []
    rw [List.append_nil, functionsIn, List.append_nil] at hall
    rw [h.functionsIn_unlines, hall]
  · rw [h.definitions_unlines, List.map_map, ← hwords]
    rfl

section

variable {t n name f : String} {G : List String} (h : Serves t G n) (hG : G ⊆ families)

include h hG

/-- a section defines nothing for other families and other names -/
theorem Serves.definitionsOf_eq_nil (hf : f ∈ families) (hother : f ∈ G → Name.word n ≠ Name.word name) :
    definitionsOf t (Name.word (f ++ name)) = [] := by
  refine List.filter_eq_nil_iff.2 fun d hd => ?_
  have hword : declaredWord d ∈ G.map fun g => Name.word (g ++ n) := h.2 ▸ List.mem_map_of_mem hd
  obtain ⟨g, hg, hgd⟩ := List.mem_map.1 hword
  rw [decide_eq_true_eq, ← hgd, word_append_inj (hG hg) hf]
  intro hsame
  exact hother (hsame.1 ▸ hg) hsame.2

/-- a section defines each of its functions once -/
theorem Serves.exists_definitionsOf (hnodup : G.Nodup) (hf : f ∈ G) (hn : Name.word n = Name.word name) :
    ∃ d, definitionsOf t (Name.word (f ++ name)) = [d] := by
  have hwords : (G.map fun g => Name.word (g ++ n)).Nodup := by
    refine hnodup.map_on fun g hg g' hg' hsame => ?_
    exact ((word_append_inj (hG hg) (hG hg')).1 hsame).1
  have hmem : Name.word (f ++ name) ∈ G.map fun g => Name.word (g ++ n) :=
    List.mem_map.2 ⟨f, hf, (word_append_inj (hG hf) (hG hf)).2 ⟨rfl, hn⟩⟩
  apply List.length_eq_one_iff.1
  calc (definitionsOf t (Name.word (f ++ name))).length
    _ = ((definitions t).map declaredWord).count (Name.word (f ++ name)) := by
      rw [definitionsOf, ← List.countP_eq_length_filter, List.count, List.countP_map]
      exact List.countP_congr fun d _ => by simp
    _ = 1 := by rw [h.2, List.count_eq_one_of_mem hwords hmem]

end

theorem splitLines_sections {ss : List String} (h : ss ≠ []) :
    splitLines ("\n\n".intercalate ss ++ "\n") = ss.flatMap fun s => splitLines s ++ [""] := by
  have hend : ∀ s, splitLines (s ++ "\n") = splitLines s ++ [""] := by
    intro s
    have hstack := splitLines_stack s ""
    rwa [String.append_empty] at hstack
  induction ss with
  | nil => exact absurd rfl h
  | cons s ss ih =>
    cases ss with
    | nil => simpa using hend s
    | cons t ts =>
      have hbreak : "\n\n" = "\n" ++ "\n" := rfl
      rw [String.intercalate_cons_cons, hbreak, ← String.append_assoc, String.append_assoc, splitLines_stack, hend,
        ← hbreak, ih (List.cons_ne_nil _ _)]
      rfl

/-- the functions of a script are those of its sections -/
theorem definitions_sections {ss : List String} (h : ∀ t ∈ ss, ∃ G n, Serves t G n) :
    definitions ("\n\n".intercalate ss ++ "\n") = ss.flatMap definitions := by
  have hfunctions : ∀ rest, functionsIn ((ss.flatMap fun s => splitLines s ++ [""]) ++ rest) =
      (ss.flatMap fun s => functionsIn (splitLines s)) ++ functionsIn rest := by
    intro rest
    induction ss with
    | nil => rfl
    | cons t ss ih =>
      obtain ⟨⟨G, n, ht, -⟩, hss⟩ := List.forall_mem_cons.1 h
      have hblank : ∀ ls, functionsIn ("" :: ls) = functionsIn ls := fun _ => rfl
      simp only [List.flatMap_cons, List.append_assoc, List.cons_append, List.nil_append, ht, hblank, ih hss]
  cases ss with
  | nil => rfl
  | cons t ss =>
    have hall := hfunctions []
    rw [List.append_nil] at hall
    rw [definitions, splitLines_sections (List.cons_ne_nil _ _), hall, functionsIn, List.append_nil, List.map_flatMap]
    rfl

/-! ## Sections of declarations -/

/-- the function of a list that deletes a record of its model -/
def deleteItemLines (b : Binding) : Lines :=
  function ("deleteItem_" ++ b.name) "id" (block "if (confirm(\"Are you sure you want to delete this item?\"))"
    ["delete_" ++ b.model ++ "(id);", "refreshLists_" ++ b.model ++ "();"] "")

theorem exists_holds_listLines {b : Binding} (hname : Name.isAccepted b.name.toList = true)
    (hmodel : Name.isAccepted b.model.toList = true) {fs : List Field}
    (hfields : ∀ f ∈ fs, Name.isAccepted f.name.toList = true) :
    ∃ refresh edit, Holds (listLines b fs) [function ("refreshList_" ++ b.name) "" refresh,
      function ("editItem_" ++ b.name) "id" edit, deleteItemLines b] := by
  have hneat := neat_paragraphs.1 (neat_listLines hname hmodel hfields)
  have hrefresh := holds_commented (hneat _ (.head _)) (isSoft_append (by decide) _)
  have hedit := holds_function (hneat _ (.tail _ (.head _)))
  have hdelete := holds_function (hneat _ (.tail _ (.tail _ (.head _))))
  exact ⟨_, _, holds_paragraphs (.cons hrefresh (.cons hedit (.cons hdelete .nil)))⟩

theorem definitionsOf_deleteItem {b : Binding} (hname : Name.isAccepted b.name.toList = true)
    (hmodel : Name.isAccepted b.model.toList = true) {fs : List Field}
    (hfields : ∀ f ∈ fs, Name.isAccepted f.name.toList = true) :
    definitionsOf (unlines (listLines b fs)) (Name.word ("deleteItem_" ++ b.name)) = [unlines (deleteItemLines b)] := by
  obtain ⟨refresh, edit, hholds⟩ := exists_holds_listLines hname hmodel hfields
  have hrefresh : Name.word ("refreshList_" ++ b.name) ≠ Name.word ("deleteItem_" ++ b.name) := by
    rw [Ne, word_append_inj (by decide) (by decide)]
    simp
  have hedit : Name.word ("editItem_" ++ b.name) ≠ Name.word ("deleteItem_" ++ b.name) := by
    rw [Ne, word_append_inj (by decide) (by decide)]
    simp
  rw [definitionsOf, hholds.definitions_unlines, deleteItemLines]
  simp only [List.map_cons, List.map_nil, List.filter_cons, List.filter_nil, declaredWord_function, hrefresh, hedit,
    decide_false, decide_true, Bool.false_eq_true, if_false, if_true]

section

variable {a : App} {o : Options} (hnames : ∀ n ∈ a.names, Name.isAccepted n.toList = true)

include hnames

theorem serves_section {k : BindingKind} {b : Binding} (hb : b ∈ a.bindings k) {t : String} (h : SectionOf a o ⟨k, b⟩ t) :
    Serves t (handlerFamilies k) b.name := by
  obtain ⟨fs, hfs, rfl⟩ := h
  obtain ⟨hname, hmodel⟩ := accepted_binding hnames hb
  have hfields : ∀ f ∈ fs, Name.isAccepted f.name.toList = true := fun f hf =>
    hnames _ (App.name_mem_of_lookupFields hb hfs hf)
  cases k with
  | form =>
    have hneat := neat_paragraphs.1 (neat_formLines hname hmodel)
    have hsubmit := holds_commented (hneat _ (.head _)) (isSoft_append (by decide) _)
    have hreset := holds_function (hneat _ (.tail _ (.head _)))
    refine (holds_paragraphs (.cons hsubmit (.cons hreset .nil))).serves ?_
    simp [declaredWord_function, handlerFamilies, formFamilies]
  | list =>
    obtain ⟨refresh, edit, hholds⟩ := exists_holds_listLines hname hmodel hfields
    refine hholds.serves ?_
    simp [deleteItemLines, declaredWord_function, handlerFamilies, listFamilies]
  | view =>
    refine (holds_commented (neat_viewLines hname hmodel hfields) (isSoft_append (by decide) _)).serves ?_
    simp [declaredWord_function, handlerFamilies, viewFamilies]

theorem serves_model {m : Model} (hm : m ∈ a.distinctModels) :
    Serves (unlines (modelLines m)) ["getAll_", "get_", "create_", "update_", "delete_"] m.name := by
  have hmodel : ∀ n ∈ m.names, Name.isAccepted n.toList = true := fun n hn =>
    hnames n (App.mem_names_of_model (App.mem_models_of_mem_distinctModels hm) hn)
  have hneat := neat_paragraphs.1 (neat_modelLines hmodel)
  have hconstant : Holds (["// Model: " ++ m.name] ++ modelConstant m) [] := by
    obtain ⟨hcomment, hconstant⟩ := every_append.1 (hneat _ (.head _))
    have hsoft : isSoft ("const " ++ m.name ++ "Model =" ++ " " ++ openBrace).toList = true := by
      simp only [String.append_assoc]
      exact isSoft_append (by decide) _
    have hblock : Holds (modelConstant m) [] := holds_block hconstant hsoft (by decide)
    exact (holds_line (every_cons.1 hcomment).1 (isSoft_append (by decide) _)).append hblock
  have hrecords : Holds ["const " ++ (m.name ++ "Data") ++ " = [];"] [] := by
    refine holds_line (every_cons.1 (hneat _ (.tail _ (.head _)))).1 ?_
    rw [String.append_assoc]
    exact isSoft_append (by decide) _
  have hall := holds_function (hneat _ (.tail _ (.tail _ (.head _))))
  have hget := holds_function (hneat _ (.tail _ (.tail _ (.tail _ (.head _)))))
  have hcreate := holds_function (hneat _ (.tail _ (.tail _ (.tail _ (.tail _ (.head _))))))
  have hupdate := holds_function (hneat _ (.tail _ (.tail _ (.tail _ (.tail _ (.tail _ (.head _)))))))
  have hdelete := holds_function (hneat _ (.tail _ (.tail _ (.tail _ (.tail _ (.tail _ (.tail _ (.head _))))))))
  refine (holds_paragraphs (.cons hconstant (.cons hrecords (.cons hall (.cons hget (.cons hcreate (.cons hupdate
    (.cons hdelete .nil)))))))).serves ?_
  simp [declaredWord_function]

theorem serves_notice {m : Model} (hm : m ∈ a.distinctModels) : Serves (changeNotice a m) ["refreshLists_"] m.name := by
  have hname := hnames _ (App.mem_names_of_model (App.mem_models_of_mem_distinctModels hm) (List.mem_cons_self ..))
  have hcalls : Every Neat ((a.displaysOf m.name).map fun c => refreshCall c ++ ";") :=
    every_map.2 fun c hc => neat_refreshCall (accepted_displaysOf hnames hc)
  refine (holds_function ?_).serves (by rw [List.map_singleton, declaredWord_function]; rfl)
  unfold function
  simp only [neat_block, hcalls, true_and]
  simp only [Neat, String.toList_append, List.append_assoc]
  repeat rw [String.toList_ofList]
  simp (disch := decide) only [isNeat_flat, isNeat_name_then hname]
  and_intros <;> trivial

theorem serves_page {p : Page} (hp : p ∈ a.pages) {steps : List Lines} (h : Places a o p steps) :
    Serves (unlines (pageLines o p steps.flatten)) pageFamilies p.name := by
  have hnamed : ∀ n ∈ p.names, Name.isAccepted n.toList = true := fun n hn => hnames n (App.mem_names_of_page hp hn)
  have hsteps : Every Neat steps.flatten := by
    refine every_flatten.2 fun ls hls => ?_
    obtain ⟨name, hname, r, -, rfl⟩ := exists_left_of_forall₂ h hls
    exact neat_placeComponent (hnamed name (List.mem_cons_of_mem _ hname)) r.1 r.2
  have hneat := neat_pageLines (hnamed _ (List.mem_cons_self ..)) o hsteps
  refine (holds_commented hneat (isSoft_append (by decide) _)).serves ?_
  rw [List.map_singleton, declaredWord_function]
  rfl

theorem serves_start : Serves (startScript a) [] "" := by
  unfold startScript
  cases hp : a.landingPage? with
  | some p =>
    have hname := hnames _ (App.mem_names_of_page (List.mem_of_mem_head? hp) (List.mem_cons_self ..))
    have hneat : Neat ("document.addEventListener(\"DOMContentLoaded\", " ++ "renderPage_" ++ p.name ++ ");") := by
      simp only [Neat, String.toList_append, List.append_assoc]
      repeat rw [String.toList_ofList]
      simp (disch := decide) only [isNeat_flat, isNeat_name hname]
      rfl
    have hsoft : isSoft ("document.addEventListener(\"DOMContentLoaded\", " ++ "renderPage_" ++ p.name ++ ");").toList =
        true := by
      simp only [String.append_assoc]
      exact isSoft_append (by decide) _
    have hline : Serves (unlines _) [] "" := (holds_line hneat hsoft).serves rfl
    rwa [unlines, String.intercalate_singleton] at hline
  | none =>
    have hcalls : Every Neat ((a.lists.map (Component.mk .list) ++ a.views.map (Component.mk .view)).map
        fun c => refreshCall c ++ ";") := by
      refine every_map.2 fun c hc => neat_refreshCall ?_
      rcases List.mem_append.1 hc with hc | hc
      · obtain ⟨b, hb, rfl⟩ := List.mem_map.1 hc
        exact (accepted_binding hnames (k := .list) hb).1
      · obtain ⟨b, hb, rfl⟩ := List.mem_map.1 hc
        exact (accepted_binding hnames (k := .view) hb).1
    have hhead : Neat ("document.addEventListener(\"DOMContentLoaded\", " ++ "() =>" ++ " " ++ openBrace) := by
      unfold Neat
      decide
    have hclose : Neat (closeBrace ++ ");") := by
      unfold Neat
      decide
    have hneat := neat_block.2 ⟨hhead, hcalls, hclose⟩
    exact (holds_block hneat (by decide) (by decide)).serves rfl

end

/-! ## Definitions of handlers -/

theorem handlerFamilies_subset (k : BindingKind) : handlerFamilies k ⊆ families := by
  cases k <;> decide

theorem nodup_handlerFamilies (k : BindingKind) : (handlerFamilies k).Nodup := by
  cases k <;> decide

/-- handlers are told apart from all other functions, and those of one kind from those of another -/
theorem not_mem_of_mem_handlerFamilies {k : BindingKind} :
    ∀ f ∈ handlerFamilies k, f ∉ modelFamilies ∧ f ∉ pageFamilies ∧ ∀ k', k' ≠ k → f ∉ handlerFamilies k' := by
  have hkind : ∀ k k', k' ≠ k → ∀ f ∈ handlerFamilies k, f ∉ handlerFamilies k' := by
    intro k k'
    cases k <;> cases k' <;> decide
  have hothers : ∀ f ∈ handlerFamilies k, f ∉ modelFamilies ∧ f ∉ pageFamilies := by
    cases k <;> decide
  intro f hf
  exact ⟨(hothers f hf).1, (hothers f hf).2, fun k' hk => hkind k k' hk f hf⟩

/-- a section of generated functions, none of them of the family `f` -/
def Avoids (f t : String) : Prop := ∃ G n, Serves t G n ∧ G ⊆ families ∧ f ∉ G

theorem flatMap_of_avoids {f : String} (hf : f ∈ families) {ts : List String} (h : ∀ t ∈ ts, Avoids f t) (name : String) :
    (ts.flatMap fun t => definitionsOf t (Name.word (f ++ name))) = [] := by
  refine List.flatMap_eq_nil_iff.2 fun t ht => ?_
  obtain ⟨G, n, hserves, hG, hout⟩ := h t ht
  exact hserves.definitionsOf_eq_nil hG hf fun hin => absurd hin hout

/-- items that match lead to one item each, and the others to none -/
theorem forall₂_filter_flatMap {α β γ : Type} {R : α → β → Prop} {p : α → Bool} {g : β → List γ} {l : List α} {m : List β}
    (h : List.Forall₂ R l m) (hone : ∀ a b, R a b → p a = true → ∃ d, g b = [d])
    (hnone : ∀ a b, R a b → p a = false → g b = []) :
    List.Forall₂ (fun a d => ∃ b, R a b ∧ g b = [d]) (l.filter p) (m.flatMap g) := by
  induction h with
  | nil => exact .nil
  | @cons a b l m hab _ ih =>
    rw [List.flatMap_cons]
    by_cases hp : p a = true
    · obtain ⟨d, hd⟩ := hone a b hab hp
      rw [List.filter_cons_of_pos hp, hd]
      exact .cons ⟨b, hab, hd⟩ ih
    · rw [List.filter_cons_of_neg hp, hnone a b hab (Bool.not_eq_true _ ▸ hp)]
      exact ih

theorem exists_getLast?_of_forall₂ {α β : Type} {R : α → β → Prop} {l : List α} {m : List β} (h : List.Forall₂ R l m) {a : α}
    (ha : l.getLast? = some a) : ∃ b, m.getLast? = some b ∧ R a b := by
  have hhead : ∀ {l : List α} {m : List β}, List.Forall₂ R l m → l.head? = some a → ∃ b, m.head? = some b ∧ R a b := by
    intro l m h ha
    cases h with
    | nil => cases ha
    | cons hab _ =>
      cases ha
      exact ⟨_, rfl, hab⟩
  have hlast := hhead (List.forall₂_reverse_iff.2 h) (List.head?_reverse.trans ha)
  rwa [List.head?_reverse] at hlast

section

variable {a : App} {o : Options} (hnames : ∀ n ∈ a.names, Name.isAccepted n.toList = true) {s : String}
  (h : (a.script o).result = .ok s) {k : BindingKind} {f : String} (hf : f ∈ handlerFamilies k) (name : String)

include hnames h hf

/-- only sections of bindings of a kind define the handlers of that kind -/
theorem exists_definitionsOf_eq :
    ∃ part, List.Forall₂ (fun b t => SectionOf a o ⟨k, b⟩ t) (a.bindings k) part ∧
      definitionsOf s (Name.word (f ++ name)) = part.flatMap fun t => definitionsOf t (Name.word (f ++ name)) := by
  obtain ⟨parts, pages, hparts, hpages, rfl⟩ := script_eq_parts h
  have hfamily := handlerFamilies_subset k hf
  obtain ⟨hmodel, hpage, hkind⟩ := not_mem_of_mem_handlerFamilies f hf
  have hserves : ∀ k, ∀ t ∈ parts k, ∃ n, Serves t (handlerFamilies k) n := by
    intro k t ht
    obtain ⟨b, hb, hsection⟩ := exists_left_of_forall₂ (hparts k) ht
    exact ⟨b.name, serves_section hnames hb hsection⟩
  have hothers : ∀ k', k' ≠ k → ∀ t ∈ parts k', Avoids f t := by
    intro k' hk t ht
    obtain ⟨n, hn⟩ := hserves k' t ht
    exact ⟨_, n, hn, handlerFamilies_subset k', hkind k' hk⟩
  have hmodels : ∀ t ∈ a.distinctModels.flatMap fun m => [unlines (modelLines m), changeNotice a m], Avoids f t := by
    intro t ht
    obtain ⟨m, hm, ht⟩ := List.mem_flatMap.1 ht
    rcases List.mem_cons.1 ht with rfl | ht
    · refine ⟨_, _, serves_model hnames hm, by decide, fun hin => hmodel ?_⟩
      exact List.subset_append_left _ ["refreshLists_"] hin
    · rw [List.mem_singleton.1 ht]
      refine ⟨_, _, serves_notice hnames hm, by decide, fun hin => hmodel ?_⟩
      rw [List.mem_singleton.1 hin]
      decide
  have hpages : ∀ t ∈ pages, Avoids f t := by
    intro t ht
    obtain ⟨p, hp, steps, hsteps, rfl⟩ := exists_left_of_forall₂ hpages ht
    exact ⟨_, _, serves_page hnames hp hsteps, by decide, hpage⟩
  have hstart : ∀ t ∈ [startScript a], Avoids f t := by
    intro t ht
    rw [List.mem_singleton.1 ht]
    exact ⟨[], "", serves_start hnames, List.nil_subset _, List.not_mem_nil⟩
  have hall : ∀ {ts : List String}, (∀ t ∈ ts, Avoids f t) → ∀ t ∈ ts, ∃ G n, Serves t G n := by
    intro ts hts t ht
    obtain ⟨G, n, hn, -⟩ := hts t ht
    exact ⟨G, n, hn⟩
  have hkinds : ∀ k, ∀ t ∈ parts k, ∃ G n, Serves t G n := fun k t ht => ⟨_, hserves k t ht⟩
  have hnone : ∀ k', k' ≠ k → ((parts k').flatMap fun t => definitionsOf t (Name.word (f ++ name))) = [] := fun k' hk =>
    flatMap_of_avoids hfamily (hothers k' hk) name
  refine ⟨parts k, hparts k, ?_⟩
  rw [definitionsOf, definitions_sections, List.filter_flatMap]
  · show List.flatMap (fun t => definitionsOf t (Name.word (f ++ name))) _ = _
    simp only [List.flatMap_append, flatMap_of_avoids hfamily hmodels, flatMap_of_avoids hfamily hpages,
      flatMap_of_avoids hfamily hstart, List.nil_append, List.append_nil]
    cases k with
    | form => rw [hnone .list (by decide), hnone .view (by decide), List.append_nil, List.append_nil]
    | list => rw [hnone .form (by decide), hnone .view (by decide), List.append_nil, List.nil_append]
    | view => rw [hnone .form (by decide), hnone .list (by decide), List.nil_append, List.nil_append]
  · simp only [List.forall_mem_append]
    exact ⟨⟨⟨⟨⟨hall hmodels, hkinds .form⟩, hkinds .list⟩, hkinds .view⟩, hall hpages⟩, hall hstart⟩

/-- **A script defines a handler once for every binding of its kind and name**, in the order of the bindings. -/
theorem forall₂_definitionsOf :
    List.Forall₂ (fun b d => ∃ t, SectionOf a o ⟨k, b⟩ t ∧ definitionsOf t (Name.word (f ++ name)) = [d])
      (a.bindingsNamed k name) (definitionsOf s (Name.word (f ++ name))) := by
  obtain ⟨part, hpart, hdefinitions⟩ := exists_definitionsOf_eq hnames h hf name
  have hserves : List.Forall₂ (fun b t => SectionOf a o ⟨k, b⟩ t ∧ Serves t (handlerFamilies k) b.name) (a.bindings k)
      part := by
    have hmem := (List.forall₂_and_left _ _).2 ⟨fun b (hb : b ∈ a.bindings k) => hb, hpart⟩
    exact hmem.imp fun b t hbt => ⟨hbt.2, serves_section hnames hbt.1 hbt.2⟩
  rw [hdefinitions]
  refine (forall₂_filter_flatMap hserves ?_ ?_).imp fun b d hd => ?_
  · intro b t hbt hword
    exact hbt.2.exists_definitionsOf (handlerFamilies_subset k) (nodup_handlerFamilies k) hf (of_decide_eq_true hword)
  · intro b t hbt hword
    exact hbt.2.definitionsOf_eq_nil (handlerFamilies_subset k) (handlerFamilies_subset k hf) fun _ =>
      of_decide_eq_false hword
  · obtain ⟨t, hbt, htd⟩ := hd
    exact ⟨t, hbt.1, htd⟩

end

end Script

/-! ## Handlers in force -/

open Script

/-- a name that means something on a page has a last binding of that kind -/
theorem App.exists_getLast?_bindingsNamed {a : App} {name : String} {c : Component} (h : a.component? name = some c) :
    ∃ b ∈ a.bindings c.kind, Name.word b.name = Name.word name ∧ (a.bindingsNamed c.kind name).getLast? = some b := by
  have hmem : c.binding ∈ a.bindingsNamed c.kind name := by
    refine List.mem_filter.2 ⟨component?_mem h, ?_⟩
    rw [component?_name h, decide_eq_true_eq]
  cases hlast : (a.bindingsNamed c.kind name).getLast? with
  | none =>
    rw [List.getLast?_eq_none_iff.1 hlast] at hmem
    cases hmem
  | some b =>
    obtain ⟨hb, hword⟩ := List.mem_filter.1 (List.mem_of_getLast? hlast)
    exact ⟨b, hb, of_decide_eq_true hword, rfl⟩

/-- the handlers in force are those of the last binding -/
theorem governs_last {a : App} {o : Options} (hnames : ∀ n ∈ a.names, Name.isAccepted n.toList = true) {s : String}
    (h : (a.script o).result = .ok s) {k : BindingKind} {name : String} {b : Binding}
    (hlast : (a.bindingsNamed k name).getLast? = some b) {fs : List Field} (hfs : a.lookupFields o ⟨k, b⟩ = .ok fs) :
    Governs s name ⟨k, b⟩ fs := by
  intro f hf
  obtain ⟨d, hd, t, ⟨gs, hgs, rfl⟩, htd⟩ := exists_getLast?_of_forall₂ (forall₂_definitionsOf hnames h hf name) hlast
  cases hfs.symm.trans hgs
  exact ⟨d, htd, hd⟩

/-- the fragment that is put in place for a name is made from what the name means -/
theorem componentHtml_of_component? {a : App} {o : Options} {name : String} {c : Component} (hc : a.component? name = some c)
    (hw : a.isWritable = true) {fs : List Field} (hfs : a.lookupFields o c = .ok fs) (p : Page) :
    (a.componentHtml o p name).result = .ok (some c, Fragment.ofComponent c fs) := by
  have hbinding : (a.bindingHtml o c).result = .ok (Fragment.ofComponent c fs) := by
    have hfault : (a.bindingHtml o c).fault? = none := by
      rw [App.fault?_bindingHtml, App.htmlFault?_eq hw]
      simp [App.fault?, hfs]
    obtain ⟨s, hs⟩ := Generated.exists_of_fault?_eq_none hfault
    obtain ⟨gs, hgs, rfl⟩ := App.bindingHtml_eq_ok hs
    cases hfs.symm.trans hgs
    exact hs
  unfold App.componentHtml
  rw [hc]
  exact Generated.bind_eq_ok.2 ⟨_, hbinding, rfl⟩

/-- **The handlers in force for a name on a page.** The fragment on the page is made from the first binding with the name;
the handlers in force are those of the last binding of its kind that is declared by the same word. So the component that is
shown has its own handlers in force exactly if they are those of that last binding, word for word, and always if no other
binding of its kind is declared by that word. -/
theorem handlers_in_force {a : App} {o : Options} (hnames : ∀ n ∈ a.names, Name.isAccepted n.toList = true) {r : Artifacts}
    (h : (compileApp o a).1 = .ok r) (p : Page) {name : String} {c : Component} (hc : a.component? name = some c) :
    ∃ fs b gs, a.lookupFields o c = .ok fs ∧ (a.componentHtml o p name).result = .ok (some c, Fragment.ofComponent c fs) ∧
      (a.bindingsNamed c.kind name).getLast? = some b ∧ a.lookupFields o ⟨c.kind, b⟩ = .ok gs ∧
      Governs r.script name ⟨c.kind, b⟩ gs ∧
      (Governs r.script name c fs ↔ SameHandlers name c ⟨c.kind, b⟩ fs gs) ∧
      ((∀ b' ∈ a.bindings c.kind, Name.word b'.name = Name.word name → b' = c.binding) → Governs r.script name c fs) := by
  obtain ⟨-, hscript, -⟩ := compileApp_eq_ok h
  obtain ⟨b, hb, hword, hlast⟩ := App.exists_getLast?_bindingsNamed hc
  obtain ⟨fs, hfs⟩ := exists_lookupFields hscript (App.component?_mem hc)
  obtain ⟨gs, hgs⟩ := exists_lookupFields hscript hb
  have hgoverns := governs_last hnames hscript hlast hgs
  have hw := App.isWritable_of_script hscript
  refine ⟨fs, b, gs, hfs, componentHtml_of_component? hc hw hfs p, hlast, hgs, hgoverns, hgoverns.governs_iff, ?_⟩
  intro honly
  rw [honly b hb hword] at hlast
  exact governs_last hnames hscript hlast hfs

/-- a list whose handlers are in force deletes records of its own model -/
theorem Script.Governs.inForce_deleteItem {s : String} {b : Binding} {fs : List Field} (h : Governs s b.name ⟨.list, b⟩ fs)
    (hname : Name.isAccepted b.name.toList = true) (hmodel : Name.isAccepted b.model.toList = true)
    (hfields : ∀ f ∈ fs, Name.isAccepted f.name.toList = true) :
    inForce? s (Name.word ("deleteItem_" ++ b.name)) = some (unlines (deleteItemLines b)) := by
  obtain ⟨d, hd, hforce⟩ := h "deleteItem_" (by decide : "deleteItem_" ∈ listFamilies)
  have htext := (definitionsOf_deleteItem hname hmodel hfields).symm.trans hd
  rw [hforce, List.singleton_inj.1 htext]

/-- the name `L` is declared by two lists, of two models, and the name `K` by one -/
def repeatedList : App :=
  ⟨[⟨"A", [⟨"x", "text", false, none⟩]⟩, ⟨"B", [⟨"y", "text", false, none⟩]⟩], [], [],
    [⟨"L", "A", []⟩, ⟨"L", "B", []⟩, ⟨"K", "A", []⟩], [⟨"P", "p", ["L", "K"]⟩]⟩

theorem exists_compileApp_repeatedList : ∃ r, (compileApp .standard repeatedList).1 = .ok r := exists_compileApp_eq_ok rfl rfl

/-- the list that is declared once has its own handlers -/
theorem handlers_in_force_repeatedList :
    (∀ n ∈ repeatedList.names, Name.isAccepted n.toList = true) ∧
      repeatedList.component? "K" = some ⟨.list, ⟨"K", "A", []⟩⟩ ∧
      ∃ r, (compileApp .standard repeatedList).1 = .ok r ∧
        Governs r.script "K" ⟨.list, ⟨"K", "A", []⟩⟩ [⟨"x", "text", false, none⟩] := by
  have hnames : ∀ n ∈ repeatedList.names, Name.isAccepted n.toList = true := by decide
  obtain ⟨r, hr⟩ := exists_compileApp_repeatedList
  have hc : repeatedList.component? "K" = some ⟨.list, ⟨"K", "A", []⟩⟩ := by decide
  obtain ⟨fs, -, -, hfs, -, -, -, -, -, hown⟩ := handlers_in_force hnames hr ⟨"P", "p", ["L", "K"]⟩ hc
  cases hfs
  exact ⟨hnames, hc, r, hr, hown (by decide)⟩

/-- **A list on a page without its own handlers**: the rows are of one model, and the handler deletes records of another. -/
theorem shown_list_not_in_force :
    repeatedList.component? "L" = some ⟨.list, ⟨"L", "A", []⟩⟩ ∧
      repeatedList.lookupFields .standard ⟨.list, ⟨"L", "A", []⟩⟩ = .ok [⟨"x", "text", false, none⟩] ∧
      ∃ r, (compileApp .standard repeatedList).1 = .ok r ∧
        inForce? r.script (Name.word "deleteItem_L") = some (unlines (deleteItemLines ⟨"L", "B", []⟩)) ∧
        ¬Governs r.script "L" ⟨.list, ⟨"L", "A", []⟩⟩ [⟨"x", "text", false, none⟩] := by
  have hnames : ∀ n ∈ repeatedList.names, Name.isAccepted n.toList = true := by decide
  obtain ⟨r, hr⟩ := exists_compileApp_repeatedList
  have hlast : Governs r.script "L" ⟨.list, ⟨"L", "B", []⟩⟩ [⟨"y", "text", false, none⟩] :=
    governs_last hnames (compileApp_eq_ok hr).2.1 (by decide) rfl
  have hforce := hlast.inForce_deleteItem (by decide) (by decide) (by decide)
  refine ⟨by decide, rfl, r, hr, hforce, fun hown => ?_⟩
  have hsame := (hown.inForce_deleteItem (by decide) (by decide) (by decide)).symm.trans hforce
  exact absurd (Option.some.inj hsame) (by decide)

end Pagewright
