/-
The script of a list, which fills a table and lets its rows be edited and deleted, and of a view, which fills a place
with cards.
-/
import Pagewright.Artifact.Script.Form
import Pagewright.Text.Upper

namespace Pagewright.Script

open Text

/-- a field of a record as shown: truth values by a word, and nothing for what is not there -/
def shownValue (f : Field) : String :=
  match f.kind with
  | .boolean => "item." ++ f.name ++ " ? \"Yes\" : \"No\""
  | _ => "item." ++ f.name ++ " ?? \"\""

/-- what an answer to a question means for a field -/
def answerValue (f : Field) : String :=
  match f.kind with
  | .number => "Number(newValue)"
  | .boolean => "newValue === \"true\""
  | _ => "newValue"

def cell (f : Field) : String := "row.insertCell().textContent = " ++ shownValue f ++ ";"

/-- the question for a new value of a field -/
def question (f : Field) : Lines :=
  block ("if (confirm(\"Edit " ++ f.name ++ "? Current value: \" + item." ++ f.name ++ "))")
    (["const newValue = prompt(\"Enter new value for " ++ f.name ++ ":\", item." ++ f.name ++ ");"] ++
      block "if (newValue !== null)" ["newData." ++ f.name ++ " = " ++ answerValue f ++ ";"] "") ""

/-- a look at what was found, which ends the function when it is nothing -/
def returnUnless (name : String) : Lines := block ("if (!" ++ name ++ ")") ["return;"] ""

def rowButton (name label style handler : String) : Lines :=
  ["const " ++ name ++ " = document.createElement(\"button\");",
    name ++ ".textContent = \"" ++ label ++ "\";",
    name ++ ".className = \"" ++ style ++ "\";",
    name ++ ".onclick = () => " ++ handler ++ "(item.id);"]

def listLines (b : Binding) (fields : List Field) : Lines :=
  paragraphs
    [["// List: " ++ b.name] ++ function ("refreshList_" ++ b.name) ""
        (["const tbody = " ++ elementById (b.name ++ "-body") ++ ";"] ++ returnUnless "tbody" ++
          ["tbody.innerHTML = \"\";"] ++
          block ("getAll_" ++ b.model ++ "().forEach(item =>")
            (["const row = tbody.insertRow();"] ++ orBlank (fields.map cell) ++
              ["const actionsCell = row.insertCell();"] ++
              rowButton "editBtn" "Edit" "sweb-button sweb-small" ("editItem_" ++ b.name) ++
              rowButton "deleteBtn" "Delete" "sweb-button sweb-small sweb-danger" ("deleteItem_" ++ b.name) ++
              ["actionsCell.appendChild(editBtn);", "actionsCell.appendChild(deleteBtn);"]) ");"),
      function ("editItem_" ++ b.name) "id"
        (["const item = get_" ++ b.model ++ "(id);"] ++ returnUnless "item" ++
          ["const newData = " ++ openBrace ++ closeBrace ++ ";"] ++ orBlank (fields.flatMap question) ++
          ["update_" ++ b.model ++ "(id, newData);", "refreshLists_" ++ b.model ++ "();"]),
      function ("deleteItem_" ++ b.name) "id"
        (block "if (confirm(\"Are you sure you want to delete this item?\"))"
          ["delete_" ++ b.model ++ "(id);", "refreshLists_" ++ b.model ++ "();"] "")]

def cardLine (f : Field) : String :=
  "addLine(" ++ scriptText (capitalised f.name) ++ ", " ++ shownValue f ++ ");"

/-- the function that puts a line on a card -/
def addLine : Lines :=
  block "const addLine = (text, value) =>"
    ["const line = document.createElement(\"div\");",
      "const labelEl = document.createElement(\"span\");",
      "labelEl.className = \"sweb-card-label\";",
      "labelEl.textContent = text + \":\";",
      "line.appendChild(labelEl);",
      "line.appendChild(document.createTextNode(String(value)));",
      "card.appendChild(line);"] ";"

def viewLines (b : Binding) (fields : List Field) : Lines :=
  ["// View: " ++ b.name] ++ function ("refreshView_" ++ b.name) ""
    (["const container = " ++ elementById (b.name ++ "-body") ++ ";"] ++ returnUnless "container" ++
      ["container.innerHTML = \"\";"] ++
      block ("getAll_" ++ b.model ++ "().forEach(item =>")
        (["const card = document.createElement(\"div\");", "card.className = \"sweb-card\";"] ++ addLine ++
          orBlank (fields.map cardLine) ++ ["container.appendChild(card);"]) ");")

/-- the script of a list whose names have been looked up -/
def listScript (a : App) (o : Options) (b : Binding) : Generated String := do
  let fields ← Generated.resolved (a.lookupFields o ⟨.list, b⟩)
  pure (unlines (listLines b fields))

/-- the script of a view whose names have been looked up -/
def viewScript (a : App) (o : Options) (b : Binding) : Generated String := do
  let fields ← Generated.resolved (a.lookupFields o ⟨.view, b⟩)
  pure (unlines (viewLines b fields))

end Pagewright.Script
