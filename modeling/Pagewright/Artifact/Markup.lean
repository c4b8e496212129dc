/-
The markup of an application: its first page with every component in place, or, when no page is declared, all forms
and lists one after the other.
-/
import Pagewright.Artifact.Fragment

namespace Pagewright

namespace App

/-- a binding as a fragment; its names are looked up also where the fragment shows none of them -/
def bindingHtml (a : App) (o : Options) (c : Component) : Generated String := do
  let fields ← Generated.resolved (a.lookupFields o c)
  match c.kind with
  | .form => do
    Generated.require (fields.all Fragment.showsWritable)
    pure (Fragment.form c.binding fields)
  | .list => pure (Fragment.list c.binding fields)
  | .view => pure (Fragment.view c.binding)

/-- the warning about a component that is not there -/
def missingComponent (p : Page) (name : String) : String :=
  "Component " ++ name ++ " on page " ++ p.name ++ " not found"

/-- what a name on a page means, and the fragment for it; a name that means nothing gets a placeholder -/
def componentHtml (a : App) (o : Options) (p : Page) (name : String) : Generated (Option Component × String) := do
  match a.component? name with
  | none => do
    Generated.warn (missingComponent p name)
    pure (none, Fragment.missing name)
  | some c => do
    let fragment ← a.bindingHtml o c
    pure (some c, fragment)

/-- a page with its components in place -/
def pageHtml (a : App) (o : Options) (p : Page) : Generated String := do
  let fragments ← Generated.each (fun name => do
    let r ← a.componentHtml o p name
    pure (name, r.2)) p.components
  pure (Fragment.shell p.title (Fragment.containers p fragments) o.footerText)

/-- forms and lists without a page -/
def fallbackHtml (a : App) (o : Options) : Generated String := do
  let forms ← Generated.each (fun b => a.bindingHtml o ⟨.form, b⟩) a.forms
  let lists ← Generated.each (fun b => a.bindingHtml o ⟨.list, b⟩) a.lists
  pure (Fragment.shell o.appTitle (Text.unlines (forms ++ lists)) o.footerText)

def markup (a : App) (o : Options) : Generated String :=
  match a.landingPage? with
  | some p => a.pageHtml o p
  | none => a.fallbackHtml o

end App

end Pagewright
