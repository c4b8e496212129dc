/-
A model that another of its name comes before is dead. Models are consulted in two ways: a binding looks its model up, and
a script goes through the models and keeps the names it has seen. Both see the first model of each name and nothing else
(`App.model?_eq_find?`, `App.distinctModels`), and nothing that is generated looks at the models in another way
(`App.generate_with_models`). So an application compiles as it does without the models that are shadowed.
-/
import Pagewright.Proofs.App.Names
import Pagewright.Proofs.Artifact.Warnings

namespace Pagewright

/-! ## The first model of each name -/

/-- models of different names, none of which was seen, are all kept -/
theorem firstOfEachName_of_nodup {seen : List String} {ms : List Model} (hnodup : (ms.map Model.name).Nodup)
    (hseen : ∀ m ∈ ms, m.name ∉ seen) : firstOfEachName seen ms = ms := by
  induction ms generalizing seen with
  | nil => rfl
  | cons m ms ih =>
    obtain ⟨hm, hms⟩ := List.forall_mem_cons.1 hseen
    obtain ⟨hfirst, hrest⟩ := List.nodup_cons.1 hnodup
    rw [firstOfEachName, if_neg (by simpa using hm)]
    congr 1
    apply ih hrest
    intro k hk
    rw [List.mem_cons, not_or]
    refine ⟨fun he => hfirst ?_, hms k hk⟩
    rw [← he]
    exact List.mem_map_of_mem hk

namespace App

theorem firstOfEachName_firstModels (a : App) : firstOfEachName [] a.firstModels = a.distinctModels := by
  have hnodup : (a.firstModels.map Model.name).Nodup := a.distinctModels_eq_firstModels ▸ nodup_names_distinctModels a
  calc firstOfEachName [] a.firstModels
      = a.firstModels := firstOfEachName_of_nodup hnodup fun _ _ => List.not_mem_nil
    _ = a.distinctModels := a.distinctModels_eq_firstModels.symm

/-! ## What is generated -/

section

variable {a : App} {ms : List Model} (hms : firstOfEachName [] ms = a.distinctModels) (o : Options)

include hms

theorem lookupFields_with_models (c : Component) :
    App.lookupFields { a with models := ms } o c = a.lookupFields o c := by
  have hmodel : App.model? { a with models := ms } c.binding.model = a.model? c.binding.model := by
    rw [model?_eq_find?, model?_eq_find?]
    exact congrArg _ hms
  unfold lookupFields lookupModel
  rw [hmodel]

theorem bindingHtml_with_models (c : Component) :
    App.bindingHtml { a with models := ms } o c = a.bindingHtml o c := by
  unfold bindingHtml
  rw [lookupFields_with_models hms]

theorem componentHtml_with_models (p : Page) (name : String) :
    App.componentHtml { a with models := ms } o p name = a.componentHtml o p name := by
  unfold componentHtml
  simp only [bindingHtml_with_models hms]
  rfl

theorem markup_with_models : App.markup { a with models := ms } o = a.markup o := by
  unfold markup pageHtml fallbackHtml
  simp only [componentHtml_with_models hms, bindingHtml_with_models hms]
  rfl

theorem script_with_models : App.script { a with models := ms } o = a.script o := by
  have hdistinct : App.distinctModels { a with models := ms } = a.distinctModels := hms
  unfold script Script.formScript Script.listScript Script.viewScript Script.pageScript
  simp only [componentHtml_with_models hms, lookupFields_with_models hms, hdistinct]
  rfl

theorem generate_with_models : App.generate { a with models := ms } o = a.generate o := by
  unfold generate
  rw [markup_with_models hms, script_with_models hms]

end

end App

/-- **Shadowed models are dead.** An application compiles as it does with only those of its models before which none of the
same name is declared: to the same artifacts with the same warnings, or to the same reference error, and what is reported on
the way is the same too. -/
theorem compileApp_firstModels (o : Options) (a : App) :
    compileApp o { a with models := a.firstModels } = compileApp o a := by
  have hgenerate : App.generate { a with models := a.firstModels } o = a.generate o :=
    App.generate_with_models a.firstOfEachName_firstModels o
  unfold compileApp
  rw [hgenerate]

end Pagewright
