/-
The script of a page, which puts its components in place, and the start of the whole script.
-/
import Pagewright.Artifact.Markup
import Pagewright.Artifact.Script.Display

namespace Pagewright.Script

open Text

/-- a component put in its place; lists and views are filled a moment later -/
def placeComponent (name : String) (c : Option Component) (fragment : String) : Lines :=
  [elementById (name ++ "-container") ++ ".innerHTML = " ++ scriptText fragment ++ ";"] ++
    match c.map Component.kind with
    | some .list => ["setTimeout(() => refreshList_" ++ name ++ "(), 0);"]
    | some .view => ["setTimeout(() => refreshView_" ++ name ++ "(), 0);"]
    | _ => []

def pageLines (o : Options) (p : Page) (steps : Lines) : Lines :=
  let shell := Fragment.shell p.title (Fragment.containers p []) o.footerText
  ["// Page: " ++ p.name] ++
    function ("renderPage_" ++ p.name) "" (["document.body.innerHTML = " ++ scriptText shell ++ ";"] ++ steps)

/-- the script of a page, with warnings about components that are not there -/
def pageScript (a : App) (o : Options) (p : Page) : Generated String := do
  let steps ← Generated.each (fun name => do
    let r ← a.componentHtml o p name
    pure (placeComponent name r.1 r.2)) p.components
  pure (unlines (pageLines o p steps.flatten))

/-- the start: the first page, or, when there is none, all lists and views are shown -/
def startScript (a : App) : String :=
  let event := "document.addEventListener(\"DOMContentLoaded\", "
  match a.landingPage? with
  | some p => event ++ "renderPage_" ++ p.name ++ ");"
  | none =>
    let displays := a.lists.map (Component.mk .list) ++ a.views.map (Component.mk .view)
    unlines (block (event ++ "() =>") (displays.map fun c => refreshCall c ++ ";") ");")

end Pagewright.Script
