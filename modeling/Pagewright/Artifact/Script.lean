/-
The script of an application: for every model its records and the functions on them, then the handlers of forms, lists
and views, then the pages, all of them, and last the start.
-/
import Pagewright.Artifact.Script.Page

namespace Pagewright

def Script.modelSections (a : App) (m : Model) : Generated (List String) := do
  let script ← Script.modelScript m
  pure [script, Script.changeNotice a m]

def App.script (a : App) (o : Options) : Generated String := do
  let models ← Generated.each (Script.modelSections a) a.distinctModels
  let forms ← Generated.each (Script.formScript a o) a.forms
  let lists ← Generated.each (Script.listScript a o) a.lists
  let views ← Generated.each (Script.viewScript a o) a.views
  let pages ← Generated.each (Script.pageScript a o) a.pages
  pure ("\n\n".intercalate (models.flatten ++ forms ++ lists ++ views ++ pages ++ [Script.startScript a]) ++ "\n")

end Pagewright
