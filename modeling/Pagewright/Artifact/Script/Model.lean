/-
The script of a model: what is known of its fields, the records that are held, and the functions that read and change
them.
-/
import Pagewright.Artifact.Generated
import Pagewright.Artifact.ScriptLiteral
import Pagewright.Text.Lines

namespace Pagewright.Script

open Text

/-- groups of lines with a blank line between neighbours -/
def paragraphs (groups : List Lines) : Lines := List.intercalate [""] groups

def function (name parameters : String) (body : Lines) : Lines :=
  block ("function " ++ name ++ "(" ++ parameters ++ ")") body ""

/-- the warning about a type that is not known -/
def unknownType (m : Model) (f : Field) : String :=
  "Field " ++ m.name ++ "." ++ f.name ++ " has unknown type '" ++ f.type ++ "'; treating it as text"

/-- what is looked at before a field is written: its type, which is warned about if it is not known, and its default -/
def checkField (m : Model) (f : Field) : Generated Unit := do
  Generated.warnUnless f.isKnown (unknownType m f)
  Generated.require f.isWritable

def fieldEntry (f : Field) : String :=
  f.name ++ ": " ++ inBraces ("type: " ++ scriptText f.type ++ ", required: " ++ scriptLiteral (.bool f.required) ++
    ", defaultValue: " ++ scriptLiteral (.ofOption (f.default.map Literal.toValue)))

def modelConstant (m : Model) : Lines :=
  block ("const " ++ m.name ++ "Model =")
    (["name: " ++ scriptText m.name ++ ","] ++ block "fields:" (orBlank (commaSeparated (m.fields.map fieldEntry))) "")
    ";"

/-- the lookup of a record by its id, which ends the function with `absent` when there is none -/
def findIndex (records absent : String) : Lines :=
  ["const index = " ++ records ++ ".findIndex(item => item.id === id);"] ++
    block "if (index === -1)" ["return " ++ absent ++ ";"] ""

def modelLines (m : Model) : Lines :=
  let records := m.name ++ "Data"
  paragraphs
    [["// Model: " ++ m.name] ++ modelConstant m,
      ["const " ++ records ++ " = [];"],
      function ("getAll_" ++ m.name) "" ["return " ++ records ++ ";"],
      function ("get_" ++ m.name) "id" ["return " ++ records ++ ".find(item => item.id === id);"],
      function ("create_" ++ m.name) "data"
        ["const id = Date.now().toString();",
          "const newItem = " ++ inBraces "...data, id" ++ ";",
          records ++ ".push(newItem);",
          "return newItem;"],
      function ("update_" ++ m.name) "id, data"
        (findIndex records "null" ++
          [records ++ "[index] = " ++ inBraces ("..." ++ records ++ "[index], ...data") ++ ";",
            "return " ++ records ++ "[index];"]),
      function ("delete_" ++ m.name) "id"
        (findIndex records "false" ++ [records ++ ".splice(index, 1);", "return true;"])]

/-- the script of a model, with warnings about its fields -/
def modelScript (m : Model) : Generated String := do
  let _ ← Generated.each (checkField m) m.fields
  pure (unlines (modelLines m))

/-- the function that shows a list or view anew -/
def refreshCall (c : Component) : String :=
  match c.kind with
  | .view => "refreshView_" ++ c.binding.name ++ "()"
  | _ => "refreshList_" ++ c.binding.name ++ "()"

/-- the function that shows anew every list and view of a model -/
def changeNotice (a : App) (m : Model) : String :=
  unlines (function ("refreshLists_" ++ m.name) "" ((a.displaysOf m.name).map fun c => refreshCall c ++ ";"))

end Pagewright.Script
