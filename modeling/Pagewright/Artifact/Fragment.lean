/-
The parts that pages are made of: forms with an input per field, tables and cards for lists and views, which are filled
by script, and the frame around them.
-/
import Pagewright.Artifact.Generated
import Pagewright.Artifact.Html
import Pagewright.Text.Upper

namespace Pagewright

def Literal.inputText : Literal → String
  | .bool b => if b then "true" else "false"
  | .int n => Json.intText n
  | .float x => x.text Number.plainWords
  | .text s => s

namespace Fragment

open Html
open Text (Lines unlines orBlank capitalised)

/-- whether a text occurs in another -/
def occursIn (part : List Char) : List Char → Bool
  | [] => part.isEmpty
  | c :: r => part.isPrefixOf (c :: r) || occursIn part r

/-- what a text field is for, by its name -/
def textInputType (name : String) : String :=
  let lowered := name.toList.map Char.toLower
  if occursIn "email".toList lowered then "email"
  else if occursIn "password".toList lowered then "password"
  else "text"

def inputType (f : Field) : String :=
  match f.kind with
  | .number => "number"
  | .boolean => "checkbox"
  | .date => "date"
  | .text => textInputType f.name

/-- the attribute that shows a default -/
def initialValue (f : Field) : List Attribute :=
  match f.default with
  | none => []
  | some l =>
    if f.kind = .boolean then (if l = .bool true then [flag "checked"] else [])
    else [attr "value" (escape l.inputText)]

/-- whether the attribute can be written; a boolean field shows no digits -/
def showsWritable (f : Field) : Bool := f.kind = .boolean || f.isWritable

def styled (name : String) : Attribute := attr "class" name

def inputGroup (form : String) (f : Field) : Lines :=
  let id := form ++ "-" ++ f.name
  enclosing "div" [styled "sweb-form-group"]
    [inline "label" [attr "for" id] (capitalised f.name),
      opening "input" ([attr "type" (inputType f), attr "id" id, attr "name" f.name,
        styled "sweb-input", attr "data-field-type" f.kind.name] ++
        (if f.required then [flag "required"] else []) ++ initialValue f)]

def formActions (form : String) : Lines :=
  enclosing "div" [styled "sweb-form-actions"]
    [inline "button" [attr "type" "submit", styled "sweb-button sweb-primary"] "Submit",
      inline "button" [attr "type" "button", styled "sweb-button sweb-secondary",
        attr "onclick" ("resetForm_" ++ form ++ "()")] "Reset"]

def form (b : Binding) (fields : List Field) : String :=
  unlines (enclosing "div" [attr "id" b.name, styled "sweb-form-container"]
    ([inline "h3" [] (capitalised b.name)] ++
      enclosing "form" [attr "id" (b.name ++ "-form"), styled "sweb-form",
          attr "onsubmit" ("return handleSubmit_" ++ b.name ++ "(event)")]
        (orBlank (fields.flatMap (inputGroup b.name)) ++ formActions b.name)))

/-- a table with a column per field and one for actions; its rows are filled in by script -/
def list (b : Binding) (fields : List Field) : String :=
  let headers := fields.map (fun f => inline "th" [] (capitalised f.name)) ++ [inline "th" [] "Actions"]
  unlines (enclosing "div" [attr "id" b.name, styled "sweb-list-container"]
    ([inline "h3" [] (capitalised b.name)] ++
      enclosing "table" [styled "sweb-table"]
        (enclosing "thead" [] [inline "tr" [] (String.join headers)] ++
          [inline "tbody" [attr "id" (b.name ++ "-body")] ""])))

/-- the place for cards; they are filled in by script -/
def view (b : Binding) : String :=
  unlines (enclosing "div" [attr "id" b.name, styled "sweb-view-container"]
    [inline "h3" [] (capitalised b.name),
      inline "div" [attr "id" (b.name ++ "-body"), styled "sweb-cards"] ""])

/-- what stands for a component that is not there -/
def missing (name : String) : String :=
  inline "div" [styled "sweb-error"] ("Component " ++ name ++ " not found")

/-- the frame of every page: a heading, the body as it is, and a footer -/
def shell (title body footer : String) : String :=
  unlines (around "div" [styled "sweb-app"]
    (Text.indent (enclosing "header" [styled "sweb-header"] [inline "h1" [] (escape title)]) ++
      ["  " ++ opening "main" [styled "sweb-main"], body, "  " ++ closing "main"] ++
      Text.indent (enclosing "footer" [styled "sweb-footer"] [inline "p" [] (escape footer)])))

/-- the text that fills a container -/
def filling (content : String) : String :=
  if content.isEmpty then "" else "\n" ++ content ++ "\n    "

def container (name content : String) : String :=
  "    " ++ inline "div" [attr "id" (name ++ "-container"), styled "sweb-component"] (filling content)

/-- a container for each component of a page, filled with the fragment known for its name -/
def containers (p : Page) (fragments : List (String × String)) : String :=
  unlines (p.components.map fun name => container name ((fragments.lookup name).getD ""))

end Fragment

end Pagewright
