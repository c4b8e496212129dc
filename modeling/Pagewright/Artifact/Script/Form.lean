/-
The script of a form: a handler that makes a record from the inputs, and one that clears them.
-/
import Pagewright.Artifact.Script.Model

namespace Pagewright.Script

open Text

def elementById (id : String) : String := "document.getElementById(\"" ++ id ++ "\")"

def switchCase (label : String) (body : Lines) : Lines := [label ++ ":"] ++ indent body

/-- the value of an input, by the type of its field -/
def readElement : Lines :=
  block "switch (element.getAttribute(\"data-field-type\"))"
    (switchCase "case \"number\""
        ["formData[element.name] = element.value !== \"\" ? Number(element.value) : null;", "break;"] ++
      switchCase "case \"boolean\"" ["formData[element.name] = element.checked;", "break;"] ++
      switchCase "default" ["formData[element.name] = element.value;"]) ""

def formLines (b : Binding) : Lines :=
  let element := "const formEl = " ++ elementById (b.name ++ "-form") ++ ";"
  paragraphs
    [["// Form: " ++ b.name] ++ function ("handleSubmit_" ++ b.name) "event"
        (["event.preventDefault();", element, "const formData = " ++ openBrace ++ closeBrace ++ ";"] ++
          block "for (const element of formEl.elements)"
            (block "if (!element.name)" ["continue;"] "" ++ readElement) "" ++
          ["create_" ++ b.model ++ "(formData);",
            "resetForm_" ++ b.name ++ "();",
            "refreshLists_" ++ b.model ++ "();",
            "return false;"]),
      function ("resetForm_" ++ b.name) "" ([element] ++ block "if (formEl)" ["formEl.reset();"] "")]

/-- the script of a form whose names have been looked up -/
def formScript (a : App) (o : Options) (b : Binding) : Generated String := do
  let _ ← Generated.resolved (a.lookupFields o ⟨.form, b⟩)
  pure (unlines (formLines b))

end Pagewright.Script
