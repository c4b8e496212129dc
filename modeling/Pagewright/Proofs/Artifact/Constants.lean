/-
Names that a script declares twice. The constants of a script are told apart by their models and by what they end in, so
no two of them have the same name, however many models share one. But a constant puts its mark after the name of a model and
a function puts its own before a name, and the two can meet: the constant of the model `get_A` for its records is `get_AData`,
and so is the function that looks up a record of the model `AData`. This happens exactly where a model is named like a
generated function (`mem_constants_and_functions_outline`).
-/
import Pagewright.Proofs.Artifact.Outline

namespace Pagewright

namespace Script

/-- the constants that a script declares outside all braces, in its order -/
def constants (s : String) : List String := (declarations s).filterMap Declaration.constant?

/-- the functions that a script declares outside all braces, in its order -/
def functions (s : String) : List String := (declarations s).filterMap Declaration.function?

/-- a name for which an application has functions of a family -/
inductive Owns (a : App) : String → String → Prop
  | model {m : Model} {f : String} (hm : m ∈ a.models) (hf : f ∈ modelFamilies) : Owns a f m.name
  | binding {k : BindingKind} {b : Binding} {f : String} (hb : b ∈ a.bindings k) (hf : f ∈ handlerFamilies k) : Owns a f b.name
  | page {p : Page} {f : String} (hp : p ∈ a.pages) (hf : f ∈ pageFamilies) : Owns a f p.name

theorem Owns.mem_families {a : App} {f n : String} (h : Owns a f n) : f ∈ families := by
  cases h with
  | model _ hf =>
    have hsub : modelFamilies ⊆ families := by decide
    exact hsub hf
  | binding _ hf => exact handlerFamilies_subset _ hf
  | page _ hf =>
    have hsub : pageFamilies ⊆ families := by decide
    exact hsub hf

/-! ## Names of constants and functions -/

theorem constants_outline (a : App) :
    (outline a).filterMap Declaration.constant? =
      a.distinctModels.flatMap fun m => constantSuffixes.map fun x => m.name ++ x := by
  simp [outline, List.filterMap_append, List.filterMap_flatMap, List.filterMap_map, Function.comp_def,
    Declaration.constant?]

theorem mem_functions_outline {a : App} {w : String} :
    w ∈ (outline a).filterMap Declaration.function? ↔ ∃ f n, Owns a f n ∧ w = f ++ n := by
  have hdeclared : w ∈ (outline a).filterMap Declaration.function? ↔ Declaration.function w ∈ outline a := by
    rw [List.mem_filterMap]
    constructor
    · rintro ⟨d, hd, hw⟩
      cases d with
      | constant n => cases hw
      | function n =>
        cases hw
        exact hd
    · exact fun hw => ⟨_, hw, rfl⟩
  have hfamily : ∀ {G : List String} {n : String},
      Declaration.function w ∈ G.map (fun f => Declaration.function (f ++ n)) ↔ ∃ f ∈ G, w = f ++ n := by
    intro G n
    simp only [List.mem_map, Declaration.function.injEq, eq_comm]
  rw [hdeclared]
  simp only [outline, List.mem_append, List.mem_flatMap, hfamily]
  constructor
  · rintro ((((⟨m, hm, hconstant | ⟨f, hf, rfl⟩⟩ | ⟨b, hb, f, hf, rfl⟩) | ⟨b, hb, f, hf, rfl⟩) | ⟨b, hb, f, hf, rfl⟩) |
      ⟨p, hp, f, hf, rfl⟩)
    · simp at hconstant
    · exact ⟨f, m.name, .model (App.mem_models_of_mem_distinctModels hm) hf, rfl⟩
    · exact ⟨f, b.name, .binding hb hf, rfl⟩
    · exact ⟨f, b.name, .binding hb hf, rfl⟩
    · exact ⟨f, b.name, .binding hb hf, rfl⟩
    · exact ⟨f, p.name, .page hp hf, rfl⟩
  · rintro ⟨f, n, howns, rfl⟩
    cases howns with
    | @model m _ hm hf =>
      obtain ⟨k, hk, hkm⟩ := App.exists_mem_distinctModels hm
      exact .inl (.inl (.inl (.inl ⟨k, hk, .inr ⟨f, hf, by rw [hkm]⟩⟩)))
    | @binding k b _ hb hf =>
      cases k with
      | form => exact .inl (.inl (.inl (.inr ⟨b, hb, f, hf, rfl⟩)))
      | list => exact .inl (.inl (.inr ⟨b, hb, f, hf, rfl⟩))
      | view => exact .inl (.inr ⟨b, hb, f, hf, rfl⟩)
    | @page p _ hp hf => exact .inr ⟨p, hp, f, hf, rfl⟩

/-- the mark of a constant is told from the name before it -/
theorem constant_inj {n k x y : String} (hx : x ∈ constantSuffixes) (hy : y ∈ constantSuffixes) :
    n ++ x = k ++ y ↔ n = k ∧ x = y := by
  -- the two marks differ in their last letters
  have hlast : ∀ x ∈ constantSuffixes, ∀ y ∈ constantSuffixes, x.toList.getLast? = y.toList.getLast? → x = y := by decide
  have hsome : ∀ x ∈ constantSuffixes, x.toList.getLast?.isSome = true := by decide
  constructor
  · intro h
    have hlists : n.toList ++ x.toList = k.toList ++ y.toList := by simpa using congrArg String.toList h
    have hends := congrArg List.getLast? hlists
    rw [List.getLast?_append, List.getLast?_append, Option.or_of_isSome (hsome x hx), Option.or_of_isSome (hsome y hy)] at hends
    obtain rfl := hlast x hx y hy hends
    exact ⟨String.toList_inj.1 (List.append_cancel_right hlists), rfl⟩
  · rintro ⟨rfl, rfl⟩
    rfl

/-- a constant has the name of a function exactly if its model is named like a function of that family -/
theorem constant_eq_function_iff {f n k x : String} (hf : f ∈ families) (hx : x ∈ constantSuffixes) :
    n ++ x = f ++ k ↔ ∃ stem, n = f ++ stem ∧ k = stem ++ x := by
  constructor
  · intro h
    have hlists : n.toList ++ x.toList = f.toList ++ k.toList := by simpa using congrArg String.toList h
    rcases List.append_eq_append_iff.1 hlists with ⟨u, hfu, hxu⟩ | ⟨u, hnu, hku⟩
    · -- a family ends in an underscore, and the mark of a constant has none
      have hunderscore : ∀ f ∈ families, f.toList.getLast? = some '_' := by decide
      have hnone : ∀ x ∈ constantSuffixes, '_' ∉ x.toList := by decide
      have hu : u = [] := by
        by_contra hne
        have hlast := hunderscore f hf
        rw [hfu, List.getLast?_append_of_ne_nil _ hne] at hlast
        exact hnone x hx (hxu ▸ List.mem_append_left _ (List.mem_of_getLast? hlast))
      subst hu
      simp only [List.append_nil, List.nil_append, String.toList_inj] at hfu hxu
      exact ⟨"", by simp [hfu], by simp [hxu]⟩
    · refine ⟨String.ofList u, ?_, ?_⟩
      · rw [← String.toList_inj, String.toList_append, String.toList_ofList, hnu]
      · rw [← String.toList_inj, String.toList_append, String.toList_ofList, hku]
  · rintro ⟨stem, rfl, rfl⟩
    exact String.append_assoc

theorem nodup_constants_outline (a : App) : ((outline a).filterMap Declaration.constant?).Nodup := by
  rw [constants_outline, List.nodup_flatMap]
  constructor
  · intro m _
    have hmarks : constantSuffixes.Nodup := by decide
    exact hmarks.map_on fun x hx y hy h => ((constant_inj hx hy).1 h).2
  · refine (List.pairwise_map.1 a.nodup_names_distinctModels).imp fun hne w hm hk => ?_
    obtain ⟨x, hx, rfl⟩ := List.mem_map.1 hm
    obtain ⟨y, hy, hxy⟩ := List.mem_map.1 hk
    exact hne ((constant_inj hy hx).1 hxy).1.symm

/-- a name stands for a constant and for a function where the name of a model and a family meet -/
theorem mem_constants_and_functions_outline {a : App} {w : String} :
    w ∈ (outline a).filterMap Declaration.constant? ∧ w ∈ (outline a).filterMap Declaration.function? ↔
      ∃ m ∈ a.models, ∃ f stem, ∃ x ∈ constantSuffixes, m.name = f ++ stem ∧ Owns a f (stem ++ x) ∧ w = m.name ++ x := by
  simp only [constants_outline, mem_functions_outline, List.mem_flatMap, List.mem_map]
  constructor
  · rintro ⟨⟨m, hm, x, hx, rfl⟩, f, n, howns, hw⟩
    obtain ⟨stem, hstem, rfl⟩ := (constant_eq_function_iff howns.mem_families hx).1 hw
    exact ⟨m, App.mem_models_of_mem_distinctModels hm, f, stem, x, hx, hstem, howns, rfl⟩
  · rintro ⟨m, hm, f, stem, x, hx, hstem, howns, rfl⟩
    obtain ⟨k, hk, hkm⟩ := App.exists_mem_distinctModels hm
    refine ⟨⟨k, hk, x, hx, by rw [hkm]⟩, f, stem ++ x, howns, ?_⟩
    exact (constant_eq_function_iff howns.mem_families hx).2 ⟨stem, hstem, rfl⟩

end Script

open Script

/-- **Constants and functions of a script.** A script declares two constants for each name of a model and no others, and
no name twice among them, however many models, forms, lists, views and pages share one. A constant has the name of a
function exactly if the name of its model is that of a generated function without the mark of the constant: a model is
named by a family and a stem, and what the family is for is named by that stem and the mark. -/
theorem constants_and_functions {a : App} {o : Options} {r : Artifacts} (hnames : ∀ n ∈ a.names, Name.isName n.toList = true)
    (h : (compileApp o a).1 = .ok r) :
    constants r.script = (a.distinctModels.flatMap fun m => [m.name ++ "Model", m.name ++ "Data"]) ∧
      (constants r.script).Nodup ∧
      (∀ w, w ∈ functions r.script ↔ ∃ f n, Owns a f n ∧ w = f ++ n) ∧
      ∀ w, w ∈ constants r.script ∧ w ∈ functions r.script ↔
        ∃ m ∈ a.models, ∃ f stem, ∃ x ∈ ["Model", "Data"], m.name = f ++ stem ∧ Owns a f (stem ++ x) ∧ w = m.name ++ x := by
  obtain ⟨-, hscript, -⟩ := compileApp_eq_ok h
  rw [constants, functions, declarations_script hnames hscript]
  exact ⟨constants_outline a, nodup_constants_outline a, fun w => mem_functions_outline,
    fun w => mem_constants_and_functions_outline⟩

/-- the guestbook has two constants, and neither is a function -/
theorem constants_and_functions_guestbook :
    (∀ n ∈ (App.guestbook "" "").names, Name.isName n.toList = true) ∧
      ∃ r, (compileApp .standard (App.guestbook "" "")).1 = .ok r ∧ constants r.script = ["EntryModel", "EntryData"] ∧
        ∀ w ∈ constants r.script, w ∉ functions r.script := by
  obtain ⟨r, hr⟩ := exists_compileApp_guestbook "" ""
  have hnames : ∀ n ∈ (App.guestbook "" "").names, Name.isName n.toList = true := by decide
  obtain ⟨hconstants, -, -, hclash⟩ := constants_and_functions hnames hr
  refine ⟨hnames, r, hr, hconstants, fun w hw hfunction => ?_⟩
  obtain ⟨m, hm, f, stem, x, -, hstem, howns, -⟩ := (hclash w).1 ⟨hw, hfunction⟩
  obtain rfl : m = _ := List.mem_singleton.1 hm
  have hfree : ∀ f ∈ families, ¬ f.toList <+: "Entry".toList := by decide
  have hentry : "Entry".toList = f.toList ++ stem.toList := by rw [← String.toList_append, ← hstem]
  exact hfree f howns.mem_families (hentry ▸ List.prefix_append _ _)

/-- a model that is named like a function of another -/
def getterModel : App := ⟨[⟨"get_A", [⟨"x", "text", false, none⟩]⟩, ⟨"AData", [⟨"y", "text", false, none⟩]⟩], [], [], [], []⟩

/-- **A constant with the name of a function.** The script of two models declares `get_AData` both ways. -/
theorem getter_is_constant_and_function :
    (∀ n ∈ getterModel.names, Name.isName n.toList = true) ∧
      ∃ r, (compileApp .standard getterModel).1 = .ok r ∧ "get_AData" ∈ constants r.script ∧
        "get_AData" ∈ functions r.script := by
  have hnames : ∀ n ∈ getterModel.names, Name.isName n.toList = true := by decide
  obtain ⟨r, hr⟩ : ∃ r, (compileApp .standard getterModel).1 = .ok r := exists_compileApp_eq_ok rfl rfl
  obtain ⟨-, hscript, -⟩ := compileApp_eq_ok hr
  have hdeclared := declarations_script hnames hscript
  refine ⟨hnames, r, hr, ?_, ?_⟩
  · rw [constants, hdeclared]
    decide
  · rw [functions, hdeclared]
    decide

end Pagewright
